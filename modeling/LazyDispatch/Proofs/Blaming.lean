import LazyDispatch.Proofs.Overloads
import LazyDispatch.Proofs.Shuffling
import LazyDispatch.Proofs.Validation

/-! What a mismatch says. The candidates that a step kept fit its arguments, whose types are the
same when it runs; so where none of them takes the value at hand, it is the receiver that they
refuse. -/

namespace LazyDispatch

/-- The types given, all of them known, and the tuples expected instead, of which none comes twice:
each refuses the receiver and takes every argument. -/
structure Blames (given : List Tag) (expected : List (List Tag)) : Prop where
  known : .any ∉ given
  nonempty : expected ≠ []
  distinct : expected.Nodup
  receiver : ∀ tuple ∈ expected, ∃ wanted types tag tags,
    tuple = wanted :: types ∧ given = tag :: tags ∧ wanted ≠ .any ∧ wanted ≠ tag ∧
      List.Forall₂ Tag.Covers types tags

theorem Tag.fits_iff_covers {parameter argument : Tag} (known : argument ≠ .any) :
    parameter.Fits argument ↔ parameter.Covers argument := by
  rw [Fits, Covers]
  simp only [known, false_or]

theorem Candidate.fits_tags_iff {candidate : Candidate} {receiver : Tag} {args : List Value} :
    candidate.Fits (Value.tags receiver args) ↔
      candidate.signature.receiver.Fits receiver ∧
        List.Forall₂ Tag.Covers candidate.signature.args (args.map Value.tag) := by
  rw [Fits, params, Signature.params, Value.tags, List.forall₂_cons, List.forall₂_map_right_iff,
    List.forall₂_map_right_iff]
  simp only [Tag.fits_iff_covers (Value.tag_ne_any _)]

theorem PendingStep.choose?_eq_none_iff {step : PendingStep Value} {current : Value} :
    step.choose? current = none ↔
      ∀ candidate ∈ step.candidates, ¬ candidate.Fits (step.types current) := by
  rw [choose?, List.find?_eq_none]
  simp only [Candidate.accepts_iff]

namespace Snapshot

variable {snapshot : Snapshot} {tag next : Tag} {step : PendingStep Value} {current : Value}

theorem Keeps.refuses_receiver (keeps : snapshot.Keeps tag step next)
    (none : step.choose? current = none) {candidate : Candidate}
    (member : candidate ∈ step.candidates) :
    candidate.signature.receiver ≠ .any ∧ candidate.signature.receiver ≠ current.tag ∧
      List.Forall₂ Tag.Covers candidate.signature.args (step.args.map Value.tag) := by
  obtain ⟨candidates, -, kept⟩ := keeps.candidates
  have planned : candidate.Fits (Value.tags tag step.args) := by
    rw [kept, List.mem_filter, decide_eq_true_iff] at member
    exact member.2
  have refused := PendingStep.choose?_eq_none_iff.mp none candidate member
  -- The arguments fit as they did when the call was planned, so only the receiver is left to refuse.
  obtain ⟨-, args⟩ := Candidate.fits_tags_iff.mp planned
  rw [PendingStep.types, Candidate.fits_tags_iff, Tag.fits_iff_covers current.tag_ne_any]
    at refused
  have apart := not_or.mp fun takes => refused ⟨takes, args⟩
  exact ⟨apart.1, apart.2, args⟩

theorem Keeps.blames (keeps : snapshot.Keeps tag step next)
    (distinct : ∀ name candidates, snapshot.candidates? name = some candidates →
      (candidates.map Candidate.params).Nodup)
    (none : step.choose? current = none) :
    Blames (step.types current) (step.candidates.map Candidate.params) := by
  obtain ⟨candidates, held, kept⟩ := keeps.candidates
  constructor
  · exact Value.any_notMem_tags current step.args
  · exact mt List.map_eq_nil_iff.mp keeps.nonempty
  · rw [kept]
    exact (List.filter_sublist.map Candidate.params).nodup (distinct _ _ held)
  · intro tuple listed
    obtain ⟨candidate, member, rfl⟩ := List.mem_map.mp listed
    obtain ⟨concrete, apart, args⟩ := keeps.refuses_receiver none member
    exact ⟨_, _, _, _, rfl, rfl, concrete, apart, args⟩

theorem nodup_of_taken {registry : Registry} (taken : registry.snapshot = .ok snapshot)
    (name : String) (candidates : List Candidate)
    (held : snapshot.candidates? name = some candidates) :
    (candidates.map Candidate.params).Nodup := by
  rw [Registry.snapshot] at taken
  split at taken
  · cases taken
  · rename_i clear
    cases taken
    exact Registry.nodup_of_clash?_eq_none clear held

end Snapshot

section

variable {σ : Type} {call : Callable → List Value → Run σ Value} {stream : Stream Value}
  {store : Store σ} {step : PendingStep Value} {reached : Progress σ}

namespace Stream

/-- A resolution has reached a step that has no candidate for the value at hand. -/
structure Stuck (call : Callable → List Value → Run σ Value) (stream : Stream Value)
    (store : Store σ) (step : PendingStep Value) (reached : Progress σ) : Prop where
  reaches : Reaches call (stream.begin store) reached
  here : ∃ rest, reached.rest = step :: rest
  none : step.choose? reached.current = none

def Raises (call : Callable → List Value → Run σ Value) (stream : Stream Value) (store : Store σ)
    (failure : Failure) (after : Store σ) : Prop :=
  ∃ reached step rest candidate, Reaches call (stream.begin store) reached ∧
    reached.rest = step :: rest ∧ step.choose? reached.current = some candidate ∧
    call candidate.callable (reached.current :: step.args)
      (reached.store.report [step.chosen reached.index reached.current candidate]) =
        some (.error failure, after)

theorem Reachable.keeps (reachable : stream.Reachable) (member : step ∈ stream.steps) :
    ∃ tag next, stream.snapshot.Keeps tag step next := by
  obtain ⟨tags, shaped⟩ := reachable.shaped
  obtain ⟨index, found⟩ := List.mem_iff_getElem?.mp member
  exact ⟨_, _, shaped.steps index step found⟩

theorem Stuck.mem (stuck : stream.Stuck call store step reached) : step ∈ stream.steps := by
  obtain ⟨rest, here⟩ := stuck.here
  have left : step ∈ stream.steps.drop reached.index := by
    rw [← Reaches.rest_eq stuck.reaches, here]
    exact List.mem_cons_self
  exact List.mem_of_mem_drop left

theorem Stuck.ends (stuck : stream.Stuck call store step reached) :
    reached.Ends call (.error (step.mismatch reached.current))
      (reached.store.report [step.mismatched reached.index reached.current]) := by
  obtain ⟨-, ⟨rest, here⟩, none⟩ := stuck
  obtain ⟨index, current, left, store⟩ := reached
  subst here
  exact .mismatch none

theorem stuck_or_raises {failure : Failure} {after : Store σ}
    (failed : stream.result call store = some (.error failure, after)) :
    (∃ step reached, stream.Stuck call store step reached ∧
        failure = step.mismatch reached.current) ∨ stream.Raises call store failure after := by
  obtain ⟨-, finished⟩ := result_eq_error_iff.mp failed
  obtain ⟨reached, reaches, ends⟩ := Progress.ends_of_finish finished
  cases ends with
  | mismatch none => exact .inl ⟨_, _, ⟨reaches, ⟨_, rfl⟩, none⟩, rfl⟩
  | failed chosen ran => exact .inr ⟨_, _, _, _, reaches, rfl, chosen, ran⟩

end Stream

/-- Whatever callables return, a resolution that finds no candidate for a step gives the types of
the value and the arguments, and lists what the step kept: tuples that differ from those types in
the receiver alone. So an operation that takes any receiver never fails this way. -/
theorem mismatch_blames_receiver (reachable : stream.Reachable)
    (taken : ∃ registry : Registry, registry.snapshot = .ok stream.snapshot)
    (call : Callable → List Value → Run σ Value) (store : Store σ) :
    (∀ failure after, stream.result call store = some (.error failure, after) →
      (∃ step reached, stream.Stuck call store step reached ∧
          failure = step.mismatch reached.current) ∨ stream.Raises call store failure after) ∧
      (∀ step reached, stream.Stuck call store step reached →
        (store.result? stream.cell = none →
          stream.result call store =
            some (.error (.wrongTransformationArgs step.operation
                (Value.tags reached.current.tag step.args) (step.candidates.map Candidate.params)),
              reached.store.report [step.mismatched reached.index reached.current])) ∧
        Blames (Value.tags reached.current.tag step.args)
          (step.candidates.map Candidate.params)) ∧
      ∀ operation, (∀ candidates, stream.snapshot.candidates? operation = some candidates →
          ∀ candidate ∈ candidates, candidate.signature.receiver = .any) →
        ∀ step reached, stream.Stuck call store step reached → step.operation ≠ operation := by
  obtain ⟨registry, taken⟩ := taken
  refine ⟨fun failure after => Stream.stuck_or_raises, ?_, ?_⟩
  · intro step reached stuck
    obtain ⟨tag, next, keeps⟩ := reachable.keeps stuck.mem
    refine ⟨?_, keeps.blames (Snapshot.nodup_of_taken taken) stuck.none⟩
    intro empty
    exact Stream.result_eq_error_iff.mpr
      ⟨empty, (Progress.finish_of_reaches stuck.reaches).trans stuck.ends.finish_eq⟩
  · rintro _ wide step reached stuck rfl
    obtain ⟨tag, next, keeps⟩ := reachable.keeps stuck.mem
    obtain ⟨candidates, held, kept⟩ := keeps.candidates
    obtain ⟨candidate, member⟩ := List.exists_mem_of_ne_nil _ keeps.nonempty
    obtain ⟨concrete, -⟩ := keeps.refuses_receiver stuck.none member
    rw [kept] at member
    exact concrete (wide candidates held candidate (List.mem_filter.mp member).1)

end

namespace Joining

def first : Overload := ⟨"first", [⟨.list, [], .any⟩], .native .head⟩

def join : Overload :=
  ⟨"join", [⟨.list, [.string], .string⟩, ⟨.map, [.any], .string⟩, ⟨.any, [.number], .string⟩],
    .custom 0 "join"⟩

def registry : Registry := (Registry.empty.push first).push join

def snapshot : Snapshot := ⟨registry.candidates⟩

def call : Callable → List Value → Run Unit Value := Host.call (fun _ _ => .answer .null) 1

def store (cells : Nat) : Store Unit := ⟨Array.replicate cells none, .withBuiltins, [], ()⟩

def source : Value := .list [.null]

def chooses : PendingStep Value := ⟨"first", first.candidates, []⟩

def joins : PendingStep Value := ⟨"join", join.candidates.take 2, [.string "-"]⟩

def begun : Stream Value := ⟨0, snapshot, source, .list, []⟩

def midway : Stream Value := ⟨1, snapshot, source, .any, [chooses]⟩

def stream : Stream Value := ⟨2, snapshot, source, .string, [chooses, joins]⟩

theorem reachable : stream.Reachable := by
  have made : (Run.takeSnapshot registry >>= fun snapshot => Stream.start snapshot source)
      (store 0) = some (.ok begun, _) := rfl
  have accepted : begun.invoke "first" [] (store 1) = some (.ok midway, _) := rfl
  have again : midway.invoke "join" [.string "-"] (store 2) = some (.ok stream, _) := rfl
  exact .invoke (.invoke (.startIn made) accepted) again

theorem stuck : ∃ reached, stream.Stuck call (store 3) joins reached ∧ reached.current = .null := by
  have chosen : chooses.choose? source = some ⟨"first", ⟨.list, [], .any⟩, .native .head⟩ := rfl
  have advances : Advances call (stream.begin (store 3)) ⟨1, .null, [joins], _⟩ := .run chosen rfl
  exact ⟨_, ⟨.single advances, ⟨[], rfl⟩, rfl⟩, rfl⟩

end Joining

theorem mismatch_blames_receiver_joins :
    ∃ after, Joining.stream.result Joining.call (Joining.store 3) =
        some (.error (.wrongTransformationArgs "join" [.null, .string]
          [[.list, .string], [.map, .any]]), after) ∧
      Blames [.null, .string] [[.list, .string], [.map, .any]] := by
  obtain ⟨-, blamed, -⟩ := mismatch_blames_receiver Joining.reachable ⟨Joining.registry, rfl⟩
    Joining.call (Joining.store 3)
  obtain ⟨reached, stuck, null⟩ := Joining.stuck
  obtain ⟨failed, blames⟩ := blamed Joining.joins reached stuck
  rw [null] at failed blames
  exact ⟨_, failed rfl, blames⟩

end LazyDispatch
