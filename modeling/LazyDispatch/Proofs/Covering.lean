import LazyDispatch.Proofs.Running

/-! How a prediction relates to what it predicts. A prediction covers a tag when it is that tag or
`any`; every candidate that accepts a value is among those that the prediction keeps. -/

namespace LazyDispatch

namespace Tag

def Covers (predicted tag : Tag) : Prop := predicted = any ∨ predicted = tag

theorem Covers.refl (tag : Tag) : tag.Covers tag := .inr rfl

theorem Covers.trans {wide middle narrow : Tag} (first : wide.Covers middle)
    (second : middle.Covers narrow) : wide.Covers narrow := by
  rcases first with first | rfl
  · exact .inl first
  · exact second

theorem accepts_of_covers {wide narrow parameter : Tag} (covers : wide.Covers narrow)
    (accepted : parameter.accepts narrow = true) : parameter.accepts wide = true := by
  rcases covers with rfl | rfl
  · simp [accepts, isAny]
  · exact accepted

end Tag

theorem Signature.accepts_of_covers {signature : Signature} {wide narrow : Tag} {types : List Tag}
    (covers : wide.Covers narrow) (accepted : signature.accepts (narrow :: types) = true) :
    signature.accepts (wide :: types) = true := by
  simp only [accepts, params, List.length_cons, List.zip_cons_cons, List.all_cons,
    Bool.and_eq_true] at accepted ⊢
  exact ⟨accepted.1, Tag.accepts_of_covers covers accepted.2.1, accepted.2.2⟩

theorem foldl_merge_eq (candidates : List Candidate) (start : Tag) :
    candidates.foldl (fun tag next => tag.merge next.returns) start =
      if ∀ candidate ∈ candidates, candidate.returns = start then start else .any := by
  induction candidates generalizing start with
  | nil => simp
  | cons head rest ih =>
      rw [List.foldl_cons, ih]
      by_cases same : start = head.returns
      · simp [Tag.merge, same]
      · simp [Tag.merge, same, Ne.symm same]

theorem foldl_merge_covers (candidates : List Candidate) (start : Tag) :
    (candidates.foldl (fun tag next => tag.merge next.returns) start).Covers start ∧
      ∀ candidate ∈ candidates,
        (candidates.foldl (fun tag next => tag.merge next.returns) start).Covers
          candidate.returns := by
  rw [foldl_merge_eq]
  split
  · rename_i same
    exact ⟨.refl start, fun candidate member => .inr (same candidate member).symm⟩
  · exact ⟨.inl rfl, fun _ _ => .inl rfl⟩

theorem predict?_covers {candidates : List Candidate} {next : Tag}
    (predicted : predict? candidates = some next) {candidate : Candidate}
    (member : candidate ∈ candidates) : next.Covers candidate.returns := by
  cases candidates with
  | nil => cases member
  | cons head rest =>
      obtain ⟨whole, others⟩ := foldl_merge_covers rest head.returns
      cases predicted
      rcases List.mem_cons.mp member with rfl | member
      · exact whole
      · exact others candidate member

theorem predict?_eq_none {candidates : List Candidate} :
    predict? candidates = none ↔ candidates = [] := by
  cases candidates <;> simp [predict?]

namespace Snapshot

variable {snapshot : Snapshot} {predicted next : Tag} {operation : String} {args : List Value}
  {step : PendingStep Value} {current : Value}

def choose? (snapshot : Snapshot) (operation : String) (types : List Tag) : Option Candidate :=
  (snapshot.candidates? operation).bind fun candidates =>
    candidates.find? fun candidate => candidate.accepts types

/-- The first candidate, among all of an operation, that accepts the types a call was planned with
and the actual ones too. -/
def chooseBoth? (snapshot : Snapshot) (operation : String) (planned actual : List Tag) :
    Option Candidate :=
  (snapshot.candidates? operation).bind fun candidates =>
    candidates.find? fun candidate => candidate.accepts planned && candidate.accepts actual

def Dispatches (snapshot : Snapshot) (candidate : Candidate) (args : List Value) : Prop :=
  ∃ operation, snapshot.choose? operation (args.map Value.tag) = some candidate

/-- A candidate that runs on arguments it is dispatched for returns what it declares. -/
def Honest {σ : Type} (snapshot : Snapshot) (call : Callable → List Value → Run σ Value) : Prop :=
  ∀ candidate args, snapshot.Dispatches candidate args →
    ∀ store value after, call candidate.callable args store = some (.ok value, after) →
      candidate.returns.Covers value.tag

/-- No candidate resolves a stream of the cell: where nothing is kept yet, its run keeps nothing. -/
def Spares {σ : Type} (snapshot : Snapshot) (call : Callable → List Value → Run σ Value)
    (cell : Nat) : Prop :=
  ∀ candidate args, snapshot.Dispatches candidate args →
    ∀ store outcome after, store.Vacant cell →
      call candidate.callable args store = some (outcome, after) → after.Vacant cell

theorem plan_eq_ok :
    snapshot.plan predicted operation args = .ok (step, next) ↔
      ∃ candidates, snapshot.candidates? operation = some candidates ∧
        step = ⟨operation, candidates.filter fun candidate =>
          candidate.accepts (Value.tags predicted args), args⟩ ∧
        predict? step.candidates = some next := by
  unfold plan
  constructor
  · intro planned
    split at planned
    · cases planned
    · rename_i candidates known
      simp only at planned
      split at planned
      · cases planned
      · rename_i tag found
        cases planned
        exact ⟨candidates, known, rfl, found⟩
  · rintro ⟨candidates, known, rfl, found⟩
    simp only at found
    simp only [known, found]

theorem plan_call (planned : snapshot.plan predicted operation args = .ok (step, next)) :
    step.operation = operation ∧ step.args = args := by
  obtain ⟨candidates, known, rfl, found⟩ := plan_eq_ok.mp planned
  exact ⟨rfl, rfl⟩

theorem plan_covers (planned : snapshot.plan predicted operation args = .ok (step, next))
    {candidate : Candidate} (member : candidate ∈ step.candidates) :
    next.Covers candidate.returns := by
  obtain ⟨candidates, known, rfl, found⟩ := plan_eq_ok.mp planned
  exact predict?_covers found member

theorem plan_chooseBoth? (planned : snapshot.plan predicted operation args = .ok (step, next)) :
    step.choose? current = snapshot.chooseBoth? operation (Value.tags predicted args)
      (Value.tags current.tag args) := by
  obtain ⟨candidates, known, rfl, found⟩ := plan_eq_ok.mp planned
  simp only [PendingStep.choose?, PendingStep.types, chooseBoth?, known, Option.bind_some,
    List.find?_filter, Bool.decide_and, Bool.decide_eq_true]

theorem chooseBoth?_of_covers (covers : predicted.Covers current.tag) :
    snapshot.chooseBoth? operation (Value.tags predicted args) (Value.tags current.tag args) =
      snapshot.choose? operation (Value.tags current.tag args) := by
  rw [chooseBoth?, choose?]
  congr
  funext candidates
  congr
  funext candidate
  have kept : candidate.accepts (Value.tags current.tag args) = true →
      candidate.accepts (Value.tags predicted args) = true :=
    Signature.accepts_of_covers covers
  grind

theorem plan_choose? (planned : snapshot.plan predicted operation args = .ok (step, next))
    (covers : predicted.Covers current.tag) :
    step.choose? current = snapshot.choose? operation (Value.tags current.tag args) :=
  (plan_chooseBoth? planned).trans (chooseBoth?_of_covers covers)

theorem plan_choose?_ne_none (planned : snapshot.plan predicted operation args = .ok (step, next))
    (same : predicted = current.tag) : step.choose? current ≠ none := by
  obtain ⟨candidates, known, rfl, found⟩ := plan_eq_ok.mp planned
  subst same
  intro missing
  have predicting : predict? (candidates.filter fun candidate =>
      candidate.accepts (Value.tags current.tag args)) ≠ none := by
    rw [found]
    exact Option.some_ne_none next
  obtain ⟨candidate, member⟩ := List.exists_mem_of_ne_nil _ (mt predict?_eq_none.mpr predicting)
  have refused := List.find?_eq_none.mp missing candidate member
  exact refused (List.mem_filter.mp member).2

end Snapshot
end LazyDispatch
