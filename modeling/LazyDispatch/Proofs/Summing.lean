import LazyDispatch.Proofs.Looking
import LazyDispatch.Proofs.Reckoning
import Mathlib.Algebra.BigOperators.Group.List.Basic
import Mathlib.Algebra.Ring.Int.Defs
import Mathlib.Data.List.Infix

/-! Sums of integers. The running total is checked at every number, so the sum is exact as long as
no partial sum leaves the 64 bits, and overflows otherwise. The order of the numbers decides that
and no more; some order reaches every total that fits. -/

namespace LazyDispatch.Native

def exactSum (numbers : List Int64) : Int := (numbers.map Int64.toInt).sum

/-- From a start on, every partial sum of the numbers in order lies within the 64 bits. -/
def Steady (start : Int) (numbers : List Int64) : Prop :=
  ∀ front, front <+: numbers → Fits64 (start + exactSum front)

section

variable {start : Int} {number : Int64} {numbers order : List Int64}

instance : Decidable (Steady start numbers) :=
  decidable_of_iff (∀ front ∈ numbers.inits, Fits64 (start + exactSum front)) (by
    simp only [List.mem_inits, Steady])

@[simp] theorem exactSum_nil : exactSum [] = 0 := rfl

@[simp] theorem exactSum_cons : exactSum (number :: numbers) = number.toInt + exactSum numbers :=
  List.sum_cons

theorem exactSum_append (front back : List Int64) :
    exactSum (front ++ back) = exactSum front + exactSum back := by
  rw [exactSum, List.map_append, List.sum_append, ← exactSum, ← exactSum]

theorem exactSum_perm (shuffled : order.Perm numbers) : exactSum order = exactSum numbers :=
  (shuffled.map Int64.toInt).sum_eq

theorem exactSum_nonneg (sign : ∀ number ∈ numbers, 0 ≤ number.toInt) : 0 ≤ exactSum numbers :=
  List.sum_induction (0 ≤ ·) (fun _ _ => Int.add_nonneg) (Int.le_refl 0)
    (List.forall_mem_map.mpr sign)

theorem exactSum_nonpos (sign : ∀ number ∈ numbers, number.toInt ≤ 0) : exactSum numbers ≤ 0 :=
  List.sum_induction (· ≤ 0) (fun _ _ => Int.add_nonpos) (Int.le_refl 0)
    (List.forall_mem_map.mpr sign)

theorem Steady.begins (steady : Steady start numbers) : Fits64 start := by
  simpa using steady [] List.nil_prefix

theorem Steady.total (steady : Steady start numbers) : Fits64 (start + exactSum numbers) :=
  steady numbers (List.prefix_refl numbers)

theorem steady_nil_iff : Steady start [] ↔ Fits64 start := by
  simp only [Steady, List.prefix_nil, forall_eq, exactSum_nil, Int.add_zero]

theorem steady_cons_iff :
    Steady start (number :: numbers) ↔ Fits64 start ∧ Steady (start + number.toInt) numbers := by
  simp only [Steady, List.prefix_cons_iff, forall_eq_or_imp, forall_exists_index, and_imp,
    exactSum_nil, Int.add_zero, Int.add_assoc]
  refine and_congr_right fun _ => ⟨?_, ?_⟩
  · intro fits front within
    rw [← exactSum_cons]
    exact fits _ front rfl within
  · rintro fits _ front rfl within
    rw [exactSum_cons]
    exact fits front within

theorem steady_of_one_sign (fits : Fits64 start) (total : Fits64 (start + exactSum numbers))
    (sign : (∀ number ∈ numbers, 0 ≤ number.toInt) ∨ ∀ number ∈ numbers, number.toInt ≤ 0) :
    Steady start numbers := by
  rintro front ⟨back, rfl⟩
  rw [exactSum_append] at total
  rw [Fits64] at fits total ⊢
  rcases sign with up | down
  · have before := exactSum_nonneg fun number member => up number (List.mem_append_left _ member)
    have beyond := exactSum_nonneg fun number member => up number (List.mem_append_right _ member)
    omega
  · have before := exactSum_nonpos fun number member => down number (List.mem_append_left _ member)
    have beyond := exactSum_nonpos fun number member => down number (List.mem_append_right _ member)
    omega

theorem fits64_add (fits : Fits64 start)
    (back : 0 ≤ start ∧ number.toInt ≤ 0 ∨ start ≤ 0 ∧ 0 ≤ number.toInt) :
    Fits64 (start + number.toInt) := by
  have own := fits64_toInt number
  rw [Fits64] at fits own ⊢
  omega

/-- A total that fits is reached in some order: as long as there is a number of the other sign than
the sum so far, it comes next. -/
theorem exists_steady_order {start : Int} {numbers : List Int64} (fits : Fits64 start)
    (total : Fits64 (start + exactSum numbers)) :
    ∃ order, order.Perm numbers ∧ Steady start order := by
  by_cases other : ∃ number ∈ numbers,
      0 ≤ start ∧ number.toInt ≤ 0 ∨ start ≤ 0 ∧ 0 ≤ number.toInt
  · obtain ⟨number, member, back⟩ := other
    have shuffled := List.perm_cons_erase member
    have rest : start + exactSum numbers =
        start + number.toInt + exactSum (numbers.erase number) := by
      rw [exactSum_perm shuffled, exactSum_cons, Int.add_assoc]
    have next := fits64_add fits back
    obtain ⟨order, perm, steady⟩ := exists_steady_order next (rest ▸ total)
    exact ⟨number :: order, (perm.cons number).trans shuffled.symm,
      steady_cons_iff.mpr ⟨fits, steady⟩⟩
  · refine ⟨numbers, .refl _, steady_of_one_sign fits total ?_⟩
    push Not at other
    rcases Int.le_total 0 start with up | down
    · exact .inl fun number member => by have := (other number member).1 up; omega
    · exact .inr fun number member => by have := (other number member).2 down; omega
termination_by numbers.length
decreasing_by
  rw [List.length_erase_of_mem member]
  have := List.length_pos_of_mem member
  omega

def overflow : Failure := .raised "sum() overflows a 64-bit integer"

theorem foldlM_add_of_steady (total : Total) (steady : Steady total.integers.toInt numbers) :
    ∃ integers : Int64, integers.toInt = total.integers.toInt + exactSum numbers ∧
      (numbers.map Value.int).foldlM Total.add total = .ok { total with integers } := by
  induction numbers generalizing total with
  | nil => exact ⟨total.integers, (Int.add_zero _).symm, rfl⟩
  | cons number numbers ih =>
      have later := (steady_cons_iff.mp steady).2
      rw [List.map_cons, List.foldlM_cons, Total.add]
      cases fit : fit? (total.integers.toInt + number.toInt) with
      | none => exact absurd later.begins (fit?_eq_none_iff_not_fits64.mp fit)
      | some next =>
          obtain ⟨-, same⟩ := fits64_of_fit? fit
          rw [← same] at later
          obtain ⟨integers, exact, summed⟩ := ih { total with integers := next } later
          refine ⟨integers, ?_, summed⟩
          rw [exact, same, exactSum_cons, Int.add_assoc]

theorem foldlM_add_of_not_steady (total : Total)
    (leaves : ¬ Steady total.integers.toInt numbers) :
    (numbers.map Value.int).foldlM Total.add total = .error overflow := by
  induction numbers generalizing total with
  | nil => exact absurd (steady_nil_iff.mpr (fits64_toInt total.integers)) leaves
  | cons number numbers ih =>
      rw [List.map_cons, List.foldlM_cons, Total.add]
      cases fit : fit? (total.integers.toInt + number.toInt) with
      | none => rfl
      | some next =>
          obtain ⟨-, same⟩ := fits64_of_fit? fit
          refine ih { total with integers := next } fun steady => leaves ?_
          rw [same] at steady
          exact steady_cons_iff.mpr ⟨fits64_toInt total.integers, steady⟩

theorem run_sum {value : Value} {items : List Value} (collected : value.items? = some items) :
    Native.sum.run [value] = Halt.ofFailure (summed items) := by
  have reads : Native.sum.run [value] =
      Halt.ofFailure (collection Native.sum.name value) >>= fun items =>
        Halt.ofFailure (summed items) := rfl
  rw [reads, collection, collected]
  rfl

theorem run_sum_of_steady {value : Value} (collected : value.items? = some (numbers.map .int))
    (steady : Steady 0 numbers) :
    ∃ total : Int64, total.toInt = exactSum numbers ∧
      Native.sum.run [value] = .ok (.int total) := by
  obtain ⟨total, exact, summed⟩ := foldlM_add_of_steady .zero steady
  refine ⟨total, exact.trans (Int.zero_add _), ?_⟩
  rw [run_sum collected, Native.summed, summed]
  rfl

theorem run_sum_of_not_steady {value : Value} (collected : value.items? = some (numbers.map .int))
    (leaves : ¬ Steady 0 numbers) :
    Native.sum.run [value] = .error (.failure overflow) := by
  rw [run_sum collected, summed, foldlM_add_of_not_steady .zero leaves]
  rfl

theorem exact_of_run_sum {value total : Value} (collected : value.items? = some (numbers.map .int))
    (summed : Native.sum.run [value] = .ok total) :
    Steady 0 numbers ∧ ∃ number : Int64, total = .int number ∧ number.toInt = exactSum numbers := by
  by_cases steady : Steady 0 numbers
  · obtain ⟨number, exact, own⟩ := run_sum_of_steady collected steady
    cases own.symm.trans summed
    exact ⟨steady, number, rfl, exact⟩
  · cases (run_sum_of_not_steady collected steady).symm.trans summed

theorem steady_iff_of_one_sign
    (sign : (∀ number ∈ numbers, 0 ≤ number.toInt) ∨ ∀ number ∈ numbers, number.toInt ≤ 0) :
    Steady 0 numbers ↔ Fits64 (exactSum numbers) := by
  rw [← Int.zero_add (exactSum numbers)]
  exact ⟨Steady.total, fun total => steady_of_one_sign (fits64_toInt 0) total sign⟩

end

/-- The sum of a collection of integers is the exact total while every partial sum, in the order of
the collection, lies within the 64 bits, and an overflow otherwise. The order decides no more than
that: orders that come to a value come to the same one, there is such an order exactly when the
total fits, and where no two integers differ in sign all orders come to the same. -/
theorem sum_exact_while_steady {value : Value} {numbers : List Int64}
    (collected : value.items? = some (numbers.map .int)) :
    (Steady 0 numbers → ∃ total : Int64, total.toInt = exactSum numbers ∧
        Native.sum.run [value] = .ok (.int total)) ∧
      (¬ Steady 0 numbers →
        Native.sum.run [value] =
          .error (.failure (.raised "sum() overflows a 64-bit integer"))) ∧
      (∀ (other : Value) (order : List Int64), other.items? = some (order.map .int) →
        order.Perm numbers →
        (∀ total twin, Native.sum.run [value] = .ok total → Native.sum.run [other] = .ok twin →
          total = twin) ∧
        ((∀ number ∈ numbers, 0 ≤ number.toInt) ∨ (∀ number ∈ numbers, number.toInt ≤ 0) →
          Native.sum.run [value] = Native.sum.run [other])) ∧
      (Fits64 (exactSum numbers) ↔ ∃ order : List Int64, order.Perm numbers ∧
        ∃ total, Native.sum.run [.list (order.map .int)] = .ok total) := by
  have alike : ∀ (other : Value) (order : List Int64), other.items? = some (order.map .int) →
      order.Perm numbers → ∀ total twin, Native.sum.run [value] = .ok total →
        Native.sum.run [other] = .ok twin → total = twin := by
    intro other order collected' shuffled total twin one two
    obtain ⟨-, number, rfl, exact⟩ := exact_of_run_sum collected one
    obtain ⟨-, number', rfl, exact'⟩ := exact_of_run_sum collected' two
    rw [exactSum_perm shuffled, ← exact] at exact'
    rw [Int64.toInt_inj.mp exact']
  refine ⟨run_sum_of_steady collected, run_sum_of_not_steady collected, ?_, ?_, ?_⟩
  · intro other order collected' shuffled
    refine ⟨alike other order collected' shuffled, fun sign => ?_⟩
    have sign' : (∀ number ∈ order, 0 ≤ number.toInt) ∨ ∀ number ∈ order, number.toInt ≤ 0 := by
      simpa only [shuffled.mem_iff] using sign
    by_cases fits : Fits64 (exactSum numbers)
    · obtain ⟨total, -, one⟩ := run_sum_of_steady collected ((steady_iff_of_one_sign sign).mpr fits)
      have fits' := (exactSum_perm shuffled).symm ▸ fits
      obtain ⟨twin, -, two⟩ :=
        run_sum_of_steady collected' ((steady_iff_of_one_sign sign').mpr fits')
      rw [one, two, alike other order collected' shuffled _ _ one two]
    · have beyond : ¬ Fits64 (exactSum order) := (exactSum_perm shuffled).symm ▸ fits
      have leaves := mt (steady_iff_of_one_sign sign).mp fits
      have leaves' := mt (steady_iff_of_one_sign sign').mp beyond
      rw [run_sum_of_not_steady collected leaves, run_sum_of_not_steady collected' leaves']
  · intro fits
    obtain ⟨order, shuffled, steady⟩ :=
      exists_steady_order (fits64_toInt 0) ((Int.zero_add (exactSum numbers)).symm ▸ fits)
    have listed : (Value.list (order.map .int)).items? = some (order.map .int) := rfl
    obtain ⟨total, -, summed⟩ := run_sum_of_steady listed steady
    exact ⟨order, shuffled, .int total, summed⟩
  · rintro ⟨order, shuffled, total, summed⟩
    have listed : (Value.list (order.map .int)).items? = some (order.map .int) := rfl
    obtain ⟨-, number, -, exact⟩ := exact_of_run_sum listed summed
    rw [← exactSum_perm shuffled, ← exact]
    exact fits64_toInt number

theorem sum_exact_while_steady_keyed :
    let value : Value := .map [(.text "a", .int Int64.maxValue), (.text "b", .int (-1)),
      (.text "c", .int 1)]
    let numbers : List Int64 := [Int64.maxValue, -1, 1]
    value.items? = some (numbers.map .int) ∧ Steady 0 numbers ∧
      exactSum numbers = Int64.maxValue.toInt ∧
      Native.sum.run [value] = .ok (.int Int64.maxValue) := by
  intro value numbers
  have collected : value.items? = some (numbers.map .int) := rfl
  have steady : Steady 0 numbers := by decide
  have exact : exactSum numbers = Int64.maxValue.toInt := by decide
  obtain ⟨total, same, summed⟩ := (sum_exact_while_steady collected).1 steady
  refine ⟨collected, steady, exact, ?_⟩
  rw [summed, Int64.toInt_inj.mp (same.trans exact)]

/-- The same integers overflow in one order and add up in another: a partial sum leaves the 64 bits
although the total is within them. -/
theorem sum_overflows_though_total_fits :
    let numbers : List Int64 := [Int64.maxValue, 1, -1]
    let order : List Int64 := [Int64.maxValue, -1, 1]
    order.Perm numbers ∧ Fits64 (exactSum numbers) ∧
      Native.sum.run [.list (numbers.map .int)] =
        .error (.failure (.raised "sum() overflows a 64-bit integer")) ∧
      Native.sum.run [.list (order.map .int)] = .ok (.int Int64.maxValue) := by
  refine ⟨by decide, by decide, rfl, rfl⟩

end LazyDispatch.Native
