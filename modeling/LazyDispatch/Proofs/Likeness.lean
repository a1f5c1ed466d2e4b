import LazyDispatch.Proofs.Mirroring

/-! Two runs side by side. Where stores are alike in all that callables look at, the steps of a
stream run alike: the same candidates, with the same outcomes, and stores that are alike again. What
is alike is up to a likeness, as long as registries do not matter to it. -/

namespace LazyDispatch

/-- Two runs end alike: neither comes to an end, or they come to the same and leave stores alike. -/
inductive EndsAlike {τ α : Type} (Alike : Store τ → Store τ → Prop) :
    Option (α × Store τ) → Option (α × Store τ) → Prop where
  | deep : EndsAlike Alike none none
  | ended {outcome : α} {after later : Store τ} (alike : Alike after later) :
      EndsAlike Alike (some (outcome, after)) (some (outcome, later))

structure Follows {τ : Type} (Alike : Store τ → Store τ → Prop) (cell other : Nat) : Prop where
  reports : ∀ {one two : Store τ} (events : List Event), Alike one two →
    Alike (one.report events) (two.report events)
  reads : ∀ {one two : Store τ}, Alike one two → one.result? cell = two.result? other
  keeps : ∀ {one two : Store τ} (value : Value), Alike one two →
    Alike (one.keep cell value) (two.keep other value)

def Stream.moved (stream : Stream Value) (cell : Nat) : Stream Value := { stream with cell }

section

variable {τ α β : Type} {Alike : Store τ → Store τ → Prop} {one two : Store τ}
  {call other : Callable → List Value → Run τ Value} {steps : List (PendingStep Value)}

theorem EndsAlike.bind {run also : Run τ α} {next further : α → Run τ β}
    (ends : EndsAlike Alike (run one) (also two))
    (rest : ∀ value after later, Alike after later →
      EndsAlike Alike (next value after) (further value later)) :
    EndsAlike Alike ((run >>= next) one) ((also >>= further) two) := by
  rw [Run.bind_apply, Run.bind_apply]
  generalize run one = left at ends ⊢
  generalize also two = right at ends ⊢
  cases ends with
  | deep => exact .deep
  | ended alike =>
      rename_i outcome after later
      cases outcome with
      | error failure => exact .ended alike
      | ok value => exact rest value after later alike

def StepsAlike (Alike : Store τ → Store τ → Prop) (call other : Callable → List Value → Run τ Value)
    (steps : List (PendingStep Value)) : Prop :=
  ∀ step ∈ steps, ∀ current candidate, step.choose? current = some candidate →
    ∀ one two, Alike one two →
      EndsAlike Alike (call candidate.callable (current :: step.args) one)
        (other candidate.callable (current :: step.args) two)

theorem resolve_alike (reports : ∀ {one two : Store τ} (events : List Event), Alike one two →
      Alike (one.report events) (two.report events))
    (calls : StepsAlike Alike call other steps) (index : Nat) (current : Value)
    (alike : Alike one two) :
    EndsAlike Alike (resolve call index current steps one) (resolve other index current steps two) := by
  induction steps generalizing index current one two with
  | nil => exact .ended alike
  | cons step rest ih =>
      have later : StepsAlike Alike call other rest := fun next member =>
        calls next (List.mem_cons_of_mem step member)
      cases choice : step.choose? current with
      | none =>
          rw [resolve_of_mismatch choice, resolve_of_mismatch choice]
          exact .ended (reports _ alike)
      | some candidate =>
          rw [resolve_of_chosen choice, resolve_of_chosen choice]
          have head := calls step List.mem_cons_self current candidate choice _ _
            (reports [step.chosen index current candidate] alike)
          refine head.bind ?_
          intro next after beyond alike
          exact ih later (index + 1) next alike

theorem Stream.result_alike {stream : Stream Value} {cell : Nat}
    (follows : Follows Alike stream.cell cell) (calls : StepsAlike Alike call other stream.steps)
    (alike : Alike one two) :
    EndsAlike Alike (stream.result call one) ((stream.moved cell).result other two) := by
  have same : one.result? stream.cell = two.result? (stream.moved cell).cell := follows.reads alike
  cases kept : one.result? stream.cell with
  | some value =>
      rw [result_of_kept kept, result_of_kept (same.symm.trans kept)]
      exact .ended alike
  | none =>
      have resolved : EndsAlike Alike (resolve call 0 stream.source stream.steps one)
          (resolve other 0 (stream.moved cell).source (stream.moved cell).steps two) :=
        resolve_alike follows.reports calls 0 stream.source alike
      rw [result_of_empty kept, result_of_empty (same.symm.trans kept)]
      generalize resolve call 0 stream.source stream.steps one = left at resolved ⊢
      generalize resolve other 0 (stream.moved cell).source (stream.moved cell).steps two = right
        at resolved ⊢
      cases resolved with
      | deep => exact .deep
      | ended alike =>
          rename_i outcome after later
          cases outcome with
          | error failure => exact .ended alike
          | ok value =>
              have read : after.result? stream.cell = later.result? (stream.moved cell).cell :=
                follows.reads alike
              have settled : Alike (stream.settled value after)
                  ((stream.moved cell).settled value later) :=
                follows.keeps value (follows.reports _ alike)
              simp only [read]
              exact .ended settled

end

/-- The stores differ in registries and reports alone: in the shared registry, and in the one that
stands beside the host's own state. -/
structure Store.Matches {σ : Type} (one two : Store (Registry × σ)) : Prop where
  results : one.results = two.results
  host : one.host.2 = two.host.2

/-- What is alike in two runs, whatever becomes of registries. Streams that both runs follow are
told by pairs of cells, for one run may start streams that the other does not. -/
structure Likeness (σ : Type) where
  Alike : List (Nat × Nat) → Store (Registry × σ) → Store (Registry × σ) → Prop
  blind : ∀ {cells : List (Nat × Nat)} {one two after later : Store (Registry × σ)},
    Alike cells one two → one.Matches after → two.Matches later → Alike cells after later
  reads : ∀ {cells : List (Nat × Nat)} {one two : Store (Registry × σ)} {left right : Nat},
    Alike cells one two → (left, right) ∈ cells → one.result? left = two.result? right
  keeps : ∀ {cells : List (Nat × Nat)} {one two : Store (Registry × σ)} {left right : Nat}
    (value : Value), Alike cells one two → (left, right) ∈ cells →
    Alike cells (one.keep left value) (two.keep right value)
  allocates : ∀ {cells : List (Nat × Nat)} {one two : Store (Registry × σ)},
    Alike cells one two → Alike ((one.nextCell, two.nextCell) :: cells) one.allocate two.allocate

section

variable {σ : Type}

namespace Store.Matches

variable {one two : Store (Registry × σ)}

theorem refl (store : Store (Registry × σ)) : store.Matches store := ⟨rfl, rfl⟩

theorem symm (same : one.Matches two) : two.Matches one := ⟨same.results.symm, same.host.symm⟩

theorem trans {three : Store (Registry × σ)} (first : one.Matches two)
    (second : two.Matches three) : one.Matches three :=
  ⟨first.results.trans second.results, first.host.trans second.host⟩

theorem report (store : Store (Registry × σ)) (events : List Event) :
    store.Matches (store.report events) := ⟨rfl, rfl⟩

theorem nextCell_eq (same : one.Matches two) : one.nextCell = two.nextCell := by
  rw [nextCell, nextCell, same.results]

theorem result?_eq (same : one.Matches two) (cell : Nat) :
    one.result? cell = two.result? cell := by
  rw [result?, result?, same.results]

theorem allocate (same : one.Matches two) : one.allocate.Matches two.allocate :=
  ⟨congrArg (·.push none) same.results, same.host⟩

theorem keep (same : one.Matches two) (cell : Nat) (value : Value) :
    (one.keep cell value).Matches (two.keep cell value) := by
  unfold Store.keep
  rw [← same.result?_eq cell]
  cases one.result? cell with
  | some kept => exact same
  | none => exact ⟨congrArg (·.setIfInBounds cell (some value)) same.results, same.host⟩

end Store.Matches

namespace Likeness

def exact : Likeness σ where
  Alike cells one two := one.Matches two ∧ ∀ pair ∈ cells, pair.1 = pair.2
  blind alike first second := ⟨first.symm.trans (alike.1.trans second), alike.2⟩
  reads alike member := by
    have same := alike.2 _ member
    simp only at same
    rw [alike.1.result?_eq, same]
  keeps value alike member := by
    have same := alike.2 _ member
    simp only at same
    rw [same]
    exact ⟨alike.1.keep _ value, alike.2⟩
  allocates alike := ⟨alike.1.allocate, List.forall_mem_cons.mpr ⟨alike.1.nextCell_eq, alike.2⟩⟩

variable (like : Likeness σ) {cells : List (Nat × Nat)}

def Beside (cells : List (Nat × Nat)) (one two : Store ((Registry × σ) × List Application)) :
    Prop :=
  like.Alike cells one.plain two.plain ∧ one.host.2 = two.host.2

theorem reports {one two : Store (Registry × σ)} (alike : like.Alike cells one two)
    (events others : List Event) : like.Alike cells (one.report events) (two.report others) :=
  like.blind alike (.report one events) (.report two others)

theorem follows {left right : Nat} (member : (left, right) ∈ cells) :
    Follows (like.Beside cells) left right := by
  constructor
  · intro one two events alike
    exact ⟨like.reports alike.1 events events, alike.2⟩
  · intro one two alike
    exact like.reads alike.1 member
  · intro one two value alike
    have kept := like.keeps value alike.1 member
    rw [← Store.keep_plain, ← Store.keep_plain] at kept
    refine ⟨kept, ?_⟩
    rw [Store.host_keep, Store.host_keep]
    exact alike.2

theorem journaled_alike {call other : Callable → List Value → Run (Registry × σ) Value}
    {one two : Store ((Registry × σ) × List Application)} {callable : Callable}
    {args : List Value} (alike : like.Beside cells one two)
    (ends : EndsAlike (like.Alike cells) (call callable args one.plain)
      (other callable args two.plain)) :
    EndsAlike (like.Beside cells) (journaled call callable args one)
      (journaled other callable args two) := by
  unfold journaled
  generalize call callable args one.plain = left at ends ⊢
  generalize other callable args two.plain = right at ends ⊢
  cases ends with
  | deep => exact .deep
  | ended after =>
      have journal : one.host.2 ++ [⟨callable, args⟩] = two.host.2 ++ [⟨callable, args⟩] := by
        rw [alike.2]
      exact .ended ⟨after, journal⟩

end Likeness

end

end LazyDispatch
