import LazyDispatch.Proofs.Evolving
import LazyDispatch.Proofs.Prediction
import LazyDispatch.Registry.Edit

/-! Integers under the arithmetic operations. A pipeline of such calls is always accepted, and comes
to the integer that the calls come to exactly; it fails where the first of them leaves the 64
bits. -/

namespace LazyDispatch

def Fits64 (n : Int) : Prop := -0x8000000000000000 ≤ n ∧ n < 0x8000000000000000

instance (n : Int) : Decidable (Fits64 n) := inferInstanceAs (Decidable (_ ∧ _))

theorem fits64_toInt (number : Int64) : Fits64 number.toInt := ⟨number.le_toInt, number.toInt_lt⟩

theorem fit?_eq_none_iff_not_fits64 {n : Int} : fit? n = none ↔ ¬ Fits64 n := by
  rw [fit?_eq_none_iff, Fits64]
  omega

theorem fits64_of_fit? {n : Int} {number : Int64} (fit : fit? n = some number) :
    Fits64 n ∧ number.toInt = n := by
  have same := fit?_eq_some_iff.mp fit
  exact ⟨same ▸ fits64_toInt number, same.symm⟩

def Preset.arithmeticSnapshot : Snapshot := ⟨(build arithmetic).1.candidates⟩

theorem Preset.snapshot_arithmetic :
    (build arithmetic).1.snapshot = .ok arithmeticSnapshot := rfl

inductive IntegerCall where
  | add (number : Int64)
  | multiply (number : Int64)
  | negate

namespace IntegerCall

def exact : IntegerCall → Int → Int
  | add number, n => n + number.toInt
  | multiply number, n => n * number.toInt
  | negate, n => -n

def arithmetic : IntegerCall → Arithmetic
  | add _ => .add
  | multiply _ => .multiply
  | negate => .negate

def args : IntegerCall → List Value
  | add number => [.int number]
  | multiply number => [.int number]
  | negate => []

def call (asked : IntegerCall) : Call := ⟨asked.arithmetic.name, asked.args⟩

def overflow : IntegerCall → Failure
  | add _ => .raised "add() expects two integers"
  | multiply _ => .raised "multiply() expects two integers"
  | negate => .raised "negate() expects an integer"

def candidate (asked : IntegerCall) : Candidate :=
  ⟨asked.arithmetic.name, ⟨.number, asked.args.map Value.tag, .number⟩,
    .arithmetic asked.arithmetic⟩

def step (asked : IntegerCall) : PendingStep Value :=
  ⟨asked.arithmetic.name, [asked.candidate], asked.args⟩

theorem plan_eq (asked : IntegerCall) :
    Preset.arithmeticSnapshot.plan .number asked.call.operation asked.call.args =
      .ok (asked.step, .number) := by
  cases asked <;> rfl

theorem choose?_eq (asked : IntegerCall) (number : Int64) :
    asked.step.choose? (.int number) = some asked.candidate := by
  cases asked <;> rfl

theorem run_eq (asked : IntegerCall) (number : Int64) :
    asked.arithmetic.run (.int number :: asked.args) =
      match fit? (asked.exact number.toInt) with
      | some result => .ok (.int result)
      | none => .error asked.overflow := by
  cases asked <;> rfl

end IntegerCall

def exactly (start : Int) (calls : List IntegerCall) : Int :=
  calls.foldl (fun n asked => asked.exact n) start

/-- How calls on an integer come out: exactly, or by the first whose result leaves the 64 bits. -/
inductive Reckons (start : Int) (calls : List IntegerCall) : Except Failure Value → Prop where
  | exact {number : Int64} (fits : ∀ front, front <+: calls → Fits64 (exactly start front))
      (same : number.toInt = exactly start calls) : Reckons start calls (.ok (.int number))
  | overflow {front back : List IntegerCall} {asked : IntegerCall}
      (split : calls = front ++ asked :: back)
      (fits : ∀ earlier, earlier <+: front → Fits64 (exactly start earlier))
      (leaves : ¬ Fits64 (exactly start (front ++ [asked]))) :
      Reckons start calls (.error asked.overflow)

namespace Reckons

variable {start : Int} {asked : IntegerCall} {calls : List IntegerCall}
  {outcome other : Except Failure Value}

theorem forall_prefix_cons_iff :
    (∀ front, front <+: asked :: calls → Fits64 (exactly start front)) ↔
      Fits64 start ∧ ∀ front, front <+: calls → Fits64 (exactly (asked.exact start) front) := by
  simp only [List.prefix_cons_iff, forall_eq_or_imp, forall_exists_index, and_imp]
  refine and_congr_right fun _ => ⟨?_, ?_⟩
  · intro fits front within
    exact fits _ front rfl within
  · rintro fits _ front rfl within
    exact fits front within

theorem nil_iff (fits : Fits64 start) :
    Reckons start [] outcome ↔
      ∃ number : Int64, number.toInt = start ∧ outcome = .ok (.int number) := by
  constructor
  · intro reckons
    cases reckons with
    | exact _ same => exact ⟨_, same, rfl⟩
    | overflow split => simp at split
  · rintro ⟨number, same, rfl⟩
    refine .exact ?_ same
    intro front within
    rw [List.prefix_nil.mp within]
    exact fits

theorem cons_iff (fits : Fits64 start) :
    Reckons start (asked :: calls) outcome ↔
      ¬ Fits64 (asked.exact start) ∧ outcome = .error asked.overflow ∨
        Fits64 (asked.exact start) ∧ Reckons (asked.exact start) calls outcome := by
  constructor
  · intro reckons
    cases reckons with
    | exact within same =>
        have later := (forall_prefix_cons_iff.mp within).2
        exact .inr ⟨later [] List.nil_prefix, .exact later same⟩
    | @overflow front back last split within leaves =>
        cases front with
        | nil =>
            obtain ⟨rfl, -⟩ := List.cons.inj split
            exact .inl ⟨leaves, rfl⟩
        | cons first front =>
            obtain ⟨rfl, rfl⟩ := List.cons.inj split
            have later := (forall_prefix_cons_iff.mp within).2
            exact .inr ⟨later [] List.nil_prefix, .overflow rfl later leaves⟩
  · rintro (⟨leaves, rfl⟩ | ⟨stays, reckons⟩)
    · have split : asked :: calls = [] ++ asked :: calls := rfl
      refine .overflow split ?_ leaves
      intro earlier within
      rw [List.prefix_nil.mp within]
      exact fits
    · cases reckons with
      | exact later same => exact .exact (forall_prefix_cons_iff.mpr ⟨fits, later⟩) same
      | @overflow front back last split later leaves =>
          have split : asked :: calls = (asked :: front) ++ last :: back := congrArg _ split
          exact .overflow split (forall_prefix_cons_iff.mpr ⟨fits, later⟩) leaves

theorem unique (fits : Fits64 start) (one : Reckons start calls outcome)
    (two : Reckons start calls other) : outcome = other := by
  induction calls generalizing start with
  | nil =>
      obtain ⟨number, same, rfl⟩ := (nil_iff fits).mp one
      obtain ⟨also, alike, rfl⟩ := (nil_iff fits).mp two
      rw [Int64.toInt_inj.mp (same.trans alike.symm)]
  | cons asked calls ih =>
      rcases (cons_iff fits).mp one with ⟨leaves, rfl⟩ | ⟨stays, one⟩
      · rcases (cons_iff fits).mp two with ⟨-, rfl⟩ | ⟨stays, -⟩
        · rfl
        · exact absurd stays leaves
      · rcases (cons_iff fits).mp two with ⟨leaves, -⟩ | ⟨-, two⟩
        · exact absurd stays leaves
        · exact ih stays one two

theorem iff_eq (fits : Fits64 start) (reckons : Reckons start calls outcome) :
    Reckons start calls other ↔ other = outcome := by
  constructor
  · intro also
    exact also.unique fits reckons
  · rintro rfl
    exact reckons

end Reckons

section

variable {σ : Type} {host : Host σ} {depth : Nat} {source : Int64} {calls : List IntegerCall}

theorem resolve_reckons (host : Host σ) (depth index : Nat) (source : Int64)
    (calls : List IntegerCall) (store : Store σ) :
    ∃ outcome events, Reckons source.toInt calls outcome ∧
      resolve (host.call (depth + 1)) index (.int source) (calls.map IntegerCall.step) store =
        some (outcome, store.report events) := by
  induction calls generalizing index source store with
  | nil =>
      refine ⟨.ok (.int source), [], ?_, ?_⟩
      · exact (Reckons.nil_iff (fits64_toInt source)).mpr ⟨source, rfl, rfl⟩
      · simp only [List.map_nil, resolve_nil, Store.report, List.append_nil]
  | cons asked calls ih =>
      have cons {outcome : Except Failure Value} :
          Reckons source.toInt (asked :: calls) outcome ↔ _ :=
        Reckons.cons_iff (fits64_toInt source)
      have ran (store : Store σ) :
          host.call (depth + 1) asked.candidate.callable (.int source :: asked.step.args) store =
            some (asked.arithmetic.run (.int source :: asked.args), store) := rfl
      rw [List.map_cons, resolve_of_chosen (asked.choose?_eq source), Run.bind_apply, ran,
        asked.run_eq]
      -- Either the step fails here, or the rest resolve from an integer that is still exact.
      cases fit : fit? (asked.exact source.toInt) with
      | none =>
          refine ⟨.error asked.overflow, _, cons.mpr (.inl ⟨?_, rfl⟩), rfl⟩
          exact fit?_eq_none_iff_not_fits64.mp fit
      | some next =>
          obtain ⟨fits, same⟩ := fits64_of_fit? fit
          obtain ⟨outcome, events, reckons, resolved⟩ :=
            ih (index + 1) next
              (store.report [asked.step.chosen index (.int source) asked.candidate])
          rw [same] at reckons
          rw [Store.report_report] at resolved
          exact ⟨outcome, _, cons.mpr (.inr ⟨fits, reckons⟩), resolved⟩

theorem planned_calls {steps : List (PendingStep Value)} {last : Tag}
    (planned : Preset.arithmeticSnapshot.Planned .number (calls.map IntegerCall.call) steps last) :
    steps = calls.map IntegerCall.step ∧ last = .number := by
  induction calls generalizing steps with
  | nil =>
      cases planned
      exact ⟨rfl, rfl⟩
  | cons asked calls ih =>
      cases planned with
      | cons plan rest =>
          cases asked.plan_eq.symm.trans plan
          obtain ⟨rfl, same⟩ := ih rest
          exact ⟨rfl, same⟩

variable {first stream : Stream Value}

theorem invokeEach_integers (arithmetic : stream.snapshot = Preset.arithmeticSnapshot)
    (number : stream.predicted = .number) (more : List IntegerCall) (store : Store σ) :
    ∃ streams after,
      stream.invokeEach (more.map IntegerCall.call) store = some (.ok streams, after) ∧
        store.Grows after ∧ streams.length = more.length ∧
        ∀ longer ∈ streams, longer.predicted = .number ∧ after.Vacant longer.cell := by
  induction more generalizing stream store with
  | nil => exact ⟨[], store, rfl, .refl store, rfl, List.forall_mem_nil _⟩
  | cons asked more ih =>
      have plan : stream.snapshot.plan stream.predicted asked.call.operation asked.call.args =
          .ok (asked.step, .number) := by
        rw [arithmetic, number]
        exact asked.plan_eq
      have same : (stream.longer store.nextCell asked.step .number).snapshot =
          Preset.arithmeticSnapshot := arithmetic
      obtain ⟨streams, after, accepted, grows, length, all⟩ := ih same rfl
        (store.report [.stepAppended asked.call.operation
          (Value.tags stream.predicted asked.call.args) asked.step.candidates.length
          .number]).allocate
      refine ⟨stream.longer store.nextCell asked.step .number :: streams, after, ?_, ?_,
        congrArg (· + 1) length, ?_⟩
      · rw [List.map_cons, Stream.invokeEach_of_planned plan, accepted]
        rfl
      · exact ((store.grows_report _).trans (Store.grows_allocate _)).trans grows
      · refine List.forall_mem_cons.mpr ⟨⟨rfl, grows.vacant ?_⟩, all⟩
        exact Array.getElem?_push_size

theorem result_reckons_of_vacant (host : Host σ) (depth : Nat)
    (steps : stream.steps = calls.map IntegerCall.step) (integer : stream.source = .int source)
    {store : Store σ} (vacant : store.Vacant stream.cell) :
    ∃ outcome after, Reckons source.toInt calls outcome ∧
      stream.result (host.call (depth + 1)) store = some (outcome, after) ∧
      ((∃ failure, outcome = .error failure ∧ after.Vacant stream.cell) ∨
        ∃ value, outcome = .ok value ∧ after.result? stream.cell = some value) := by
  obtain ⟨outcome, events, reckons, resolved⟩ :=
    resolve_reckons host depth 0 source calls store
  have still : (store.report events).Vacant stream.cell := vacant.report events
  rw [Stream.result_of_empty vacant.result?, steps, integer, resolved]
  cases outcome with
  | error failure =>
      exact ⟨_, _, reckons, rfl, .inl ⟨failure, rfl, still⟩⟩
  | ok value =>
      simp only [still.result?, Option.getD_none]
      exact ⟨_, _, reckons, rfl, .inr ⟨value, rfl, (still.report _).keep value⟩⟩

theorem Stream.Lived.reckons (steps : stream.steps = calls.map IntegerCall.step)
    (integer : stream.source = .int source) {store : Store σ}
    (lived : stream.Lived (host.call (depth + 1)) store) :
    store.Vacant stream.cell ∨
      ∃ value, store.result? stream.cell = some value ∧ Reckons source.toInt calls (.ok value) := by
  refine lived.keeps ?_
  intro store outcome after vacant resolved
  obtain ⟨ended, left, reckons, also, settled⟩ :=
    result_reckons_of_vacant host depth steps integer vacant
  cases resolved.symm.trans also
  rcases settled with ⟨failure, rfl, vacant⟩ | ⟨value, rfl, kept⟩
  · exact .inl vacant
  · exact .inr ⟨value, kept, reckons⟩

theorem Stream.Lived.result_reckons (steps : stream.steps = calls.map IntegerCall.step)
    (integer : stream.source = .int source) {store : Store σ}
    (lived : stream.Lived (host.call (depth + 1)) store) :
    ∃ outcome after, stream.result (host.call (depth + 1)) store = some (outcome, after) ∧
      Reckons source.toInt calls outcome ∧ stream.isResolved after = outcome.isOk := by
  rcases lived.reckons steps integer with vacant | ⟨value, kept, reckons⟩
  · obtain ⟨outcome, after, reckons, resolved, ended⟩ :=
      result_reckons_of_vacant host depth steps integer vacant
    refine ⟨outcome, after, resolved, reckons, ?_⟩
    rcases ended with ⟨failure, rfl, vacant⟩ | ⟨value, rfl, kept⟩
    · rw [Stream.isResolved, vacant.result?]
      rfl
    · rw [Stream.isResolved, kept]
      rfl
  · refine ⟨.ok value, store, Stream.result_of_kept kept _, reckons, ?_⟩
    rw [Stream.isResolved, kept]
    rfl

/-- Calls that reckon with integers are accepted whatever came before, the prediction stays a
number, and result() comes to what they come to exactly, or fails by the first that leaves the 64
bits and keeps nothing. -/
theorem integer_pipeline_exact
    (started : Stream.Started Preset.arithmeticSnapshot (.int source) first)
    (grown : first.Extends (calls.map IntegerCall.call) stream) :
    (Preset.build Preset.arithmetic).1.snapshot = .ok Preset.arithmeticSnapshot ∧
      stream.predicted = .number ∧
      (∀ (more : List IntegerCall) (store : Store σ), ∃ streams after,
        stream.invokeEach (more.map IntegerCall.call) store = some (.ok streams, after) ∧
          streams.length = more.length ∧
          ∀ longer ∈ streams, longer.predicted = .number ∧ after.Vacant longer.cell) ∧
      ∀ (host : Host σ) (depth : Nat) (store : Store σ),
        stream.Lived (host.call (depth + 1)) store →
          ∃ outcome after, stream.result (host.call (depth + 1)) store = some (outcome, after) ∧
            (∀ other, Reckons source.toInt calls other ↔ other = outcome) ∧
            stream.isResolved after = outcome.isOk := by
  obtain ⟨sameSnapshot, integer, planned⟩ := started.planned grown
  obtain ⟨steps, number⟩ := planned_calls planned
  refine ⟨Preset.snapshot_arithmetic, number, ?_, ?_⟩
  · intro more store
    obtain ⟨streams, after, accepted, -, length, all⟩ :=
      invokeEach_integers sameSnapshot number more store
    exact ⟨streams, after, accepted, length, all⟩
  · intro host depth store lived
    obtain ⟨outcome, after, resolved, reckons, kept⟩ := lived.result_reckons steps integer
    exact ⟨outcome, after, resolved, fun _ => reckons.iff_eq (fits64_toInt source), kept⟩

end

namespace NearLimit

def calls : List IntegerCall := [.add 1, .negate, .add 1]

def snapshot : Snapshot := Preset.arithmeticSnapshot

def stream (made : Nat) : Stream Value :=
  ⟨made, snapshot, .int Int64.minValue, .number, (calls.take made).map IntegerCall.step⟩

def store (cells : Nat) : Store Unit := ⟨Array.replicate cells none, .withBuiltins, [], ()⟩

theorem started : Stream.Started snapshot (.int Int64.minValue) (stream 0) :=
  ⟨Unit, store 0, _, rfl⟩

theorem grown : (stream 0).Extends (calls.map IntegerCall.call) (stream 3) := by
  have first : (stream 0).invoke "add" [.int 1] (store 1) = some (.ok (stream 1), _) := rfl
  have second : (stream 1).invoke "negate" [] (store 2) = some (.ok (stream 2), _) := rfl
  have third : (stream 2).invoke "add" [.int 1] (store 3) = some (.ok (stream 3), _) := rfl
  exact ((Stream.Extends.refl.invoke first).invoke second).invoke third

def host : Host Unit := fun _ _ => .answer .null

theorem reckons : Reckons Int64.minValue.toInt calls
    (.error (.raised "add() expects two integers")) := by
  have last : Reckons Int64.maxValue.toInt [.add 1]
      (.error (.raised "add() expects two integers")) :=
    (Reckons.cons_iff (by decide)).mpr (.inl ⟨by decide, rfl⟩)
  have second : Reckons (-Int64.maxValue.toInt) [.negate, .add 1]
      (.error (.raised "add() expects two integers")) :=
    (Reckons.cons_iff (by decide)).mpr (.inr ⟨by decide, last⟩)
  exact (Reckons.cons_iff (by decide)).mpr (.inr ⟨by decide, second⟩)

end NearLimit

theorem integer_pipeline_exact_near_limit :
    ∃ after, (NearLimit.stream 3).result (NearLimit.host.call 1) (NearLimit.store 4) =
        some (.error (.raised "add() expects two integers"), after) ∧
      (NearLimit.stream 3).isResolved after = false := by
  obtain ⟨-, -, -, results⟩ :=
    integer_pipeline_exact (σ := Unit) NearLimit.started NearLimit.grown
  obtain ⟨outcome, after, resolved, only, kept⟩ :=
    results NearLimit.host 0 (NearLimit.store 4) (.fresh rfl)
  obtain rfl := (only _).mp NearLimit.reckons
  exact ⟨after, resolved, kept⟩

end LazyDispatch
