import LazyDispatch.Signature.Parser
import Mathlib.Data.List.Forall2

/-! Cutting and trimming, told by what the parts are. The fields of a text are joined by a mark and
hold none, and there is one way to cut a text so; what is left of a trimmed text has no blank at
either end. -/

namespace LazyDispatch.Text

/-- The fields that a mark separates: joined by it they are the letters, and none holds it. -/
structure Cuts (mark letters : List Char) (fields : List (List Char)) : Prop where
  some : fields ≠ []
  joined : mark.intercalate fields = letters
  free : ∀ field ∈ fields, ¬ mark <:+: field

def bar : List Char := ['|']

def arrow : List Char := ['-', '>']

section

variable {head : Char} {tail letters : List Char} {fields : List (List Char)}

theorem cuts_nil : Cuts (head :: tail) [] fields ↔ fields = [[]] := by
  constructor
  · rintro ⟨some, joined, -⟩
    cases fields with
    | nil => exact absurd rfl some
    | cons field others =>
        cases others with
        | nil =>
            rw [List.intercalate_singleton] at joined
            rw [joined]
        | cons next others => simp at joined
  · rintro rfl
    refine ⟨List.cons_ne_nil _ _, List.intercalate_singleton, ?_⟩
    intro field member
    rw [List.mem_singleton.mp member, List.infix_nil]
    exact List.cons_ne_nil _ _

theorem cuts_letter {c : Char} (other : ¬ head :: tail <+: c :: letters) :
    Cuts (head :: tail) (c :: letters) fields ↔ ∃ field others,
      fields = (c :: field) :: others ∧ Cuts (head :: tail) letters (field :: others) := by
  constructor
  · rintro ⟨some, joined, free⟩
    cases fields with
    | nil => exact absurd rfl some
    | cons field others =>
        cases field with
        | nil =>
            cases others with
            | nil => simp at joined
            | cons next others =>
                rw [List.intercalate_cons_cons, List.nil_append] at joined
                exact absurd ⟨_, joined⟩ other
        | cons d field =>
            rw [List.intercalate_cons_cons_left] at joined
            obtain ⟨rfl, following⟩ := List.cons.inj joined
            refine ⟨field, others, rfl, List.cons_ne_nil _ _, following, ?_⟩
            intro part member
            rcases List.mem_cons.mp member with rfl | later
            · exact fun inside => free _ List.mem_cons_self (List.infix_cons inside)
            · exact free part (List.mem_cons_of_mem _ later)
  · rintro ⟨field, others, rfl, -, joined, free⟩
    have whole : (head :: tail).intercalate ((c :: field) :: others) = c :: letters := by
      rw [List.intercalate_cons_cons_left, joined]
    refine ⟨List.cons_ne_nil _ _, whole, ?_⟩
    intro part member
    rcases List.mem_cons.mp member with rfl | later
    · rw [List.infix_cons_iff]
      rintro (front | inside)
      · refine other (front.trans ?_)
        rw [← whole]
        cases others with
        | nil =>
            simp only [List.intercalate_singleton, List.prefix_refl]
        | cons next others =>
            rw [List.intercalate_cons_cons, List.append_assoc]
            exact List.prefix_append _ _
      · exact free field List.mem_cons_self inside
    · exact free part (List.mem_cons_of_mem _ later)

/-- A mark in front ends an empty first field, if no mark can begin inside another. -/
theorem cuts_mark (apart : head ∉ tail) :
    Cuts (head :: tail) (head :: tail ++ letters) fields ↔ ∃ others,
      fields = [] :: others ∧ Cuts (head :: tail) letters others := by
  constructor
  · rintro ⟨some, joined, free⟩
    cases fields with
    | nil => exact absurd rfl some
    | cons field others =>
        have unmarked := free field List.mem_cons_self
        cases others with
        | nil =>
            rw [List.intercalate_singleton] at joined
            exact absurd ⟨[], letters, by rw [joined, List.nil_append]⟩ unmarked
        | cons next others =>
            rw [List.intercalate_cons_cons, List.append_assoc] at joined
            cases field with
            | nil =>
                refine ⟨next :: others, rfl, List.cons_ne_nil _ _, ?_, ?_⟩
                · exact List.append_cancel_left joined
                · intro part member
                  exact free part (List.mem_cons_of_mem _ member)
            | cons c field =>
                -- The field would begin like the mark, and end where the mark still goes on.
                obtain ⟨rfl, onward⟩ := List.cons.inj joined
                rcases List.append_eq_append_iff.mp onward with
                  ⟨rest, same, following⟩ | ⟨rest, same, following⟩
                · cases rest with
                  | nil =>
                      rw [List.append_nil] at same
                      exact absurd ⟨[], [], by simp [same]⟩ unmarked
                  | cons d rest =>
                      obtain ⟨rfl, -⟩ := List.cons.inj following
                      exact absurd (same ▸ List.mem_append_right _ List.mem_cons_self) apart
                · exact absurd ⟨[], rest, by simp [same]⟩ unmarked
  · rintro ⟨others, rfl, some, joined, free⟩
    refine ⟨List.cons_ne_nil _ _, ?_, ?_⟩
    · rw [List.intercalate_cons_of_ne_nil some, List.nil_append, joined]
    · intro part member
      rcases List.mem_cons.mp member with rfl | later
      · rw [List.infix_nil]
        exact List.cons_ne_nil _ _
      · exact free part later

theorem cuts_modifyHead {c : Char} {cut : List (List Char)}
    (other : ¬ head :: tail <+: c :: letters)
    (rest : ∀ fields, Cuts (head :: tail) letters fields ↔ fields = cut) :
    Cuts (head :: tail) (c :: letters) fields ↔ fields = cut.modifyHead (c :: ·) := by
  have some : cut ≠ [] := ((rest cut).mpr rfl).some
  obtain ⟨field, others, rfl⟩ := List.exists_cons_of_ne_nil some
  rw [cuts_letter other, List.modifyHead_cons]
  constructor
  · rintro ⟨first, more, rfl, cuts⟩
    obtain ⟨rfl, rfl⟩ := List.cons.inj ((rest _).mp cuts)
    rfl
  · rintro rfl
    exact ⟨field, others, rfl, (rest _).mpr rfl⟩

end

theorem cuts_cutAt (mark : Char) (letters : List Char) (fields : List (List Char)) :
    Cuts [mark] letters fields ↔ fields = cutAt mark letters := by
  induction letters generalizing fields with
  | nil => exact cuts_nil
  | cons c rest ih =>
      rw [cutAt]
      split
      · rename_i same
        subst same
        have front : Cuts [c] (c :: rest) fields ↔ _ := cuts_mark List.not_mem_nil
        rw [front]
        constructor
        · rintro ⟨others, rfl, cuts⟩
          rw [(ih others).mp cuts]
        · rintro rfl
          exact ⟨_, rfl, (ih _).mpr rfl⟩
      · rename_i apart
        have other : ¬ [mark] <+: c :: rest := by
          rw [List.cons_prefix_cons]
          exact fun front => apart front.1.symm
        exact cuts_modifyHead other ih

theorem cuts_cutArrows (letters : List Char) (fields : List (List Char)) :
    Cuts arrow letters fields ↔ fields = cutArrows letters := by
  fun_induction cutArrows letters generalizing fields with
  | case1 => exact cuts_nil
  | case2 rest ih =>
      have front : Cuts arrow ('-' :: '>' :: rest) fields ↔ _ := cuts_mark (by decide)
      rw [front]
      constructor
      · rintro ⟨others, rfl, cuts⟩
        rw [(ih others).mp cuts]
      · rintro rfl
        exact ⟨_, rfl, (ih _).mpr rfl⟩
  | case3 c rest apart ih =>
      have other : ¬ arrow <+: c :: rest := by
        rintro ⟨more, same⟩
        obtain ⟨rfl, following⟩ := List.cons.inj same
        exact apart more rfl following.symm
      exact cuts_modifyHead other ih

structure Trims (letters middle : List Char) : Prop where
  framed : ∃ front back, letters = front ++ middle ++ back ∧ front.all isBlank ∧ back.all isBlank
  first : ∀ c ∈ middle.head?, ¬ isBlank c
  last : ∀ c ∈ middle.getLast?, ¬ isBlank c

theorem dropWhile_front {p : Char → Bool} {front rest : List Char} (dropped : front.all p)
    (kept : ∀ c ∈ rest.head?, ¬ p c) : (front ++ rest).dropWhile p = rest := by
  rw [List.dropWhile_append_of_pos (List.all_eq_true.mp dropped)]
  cases rest with
  | nil => rfl
  | cons c rest => exact List.dropWhile_cons_of_neg (kept c rfl)

theorem head?_dropWhile (p : Char → Bool) (letters : List Char) :
    ∀ c ∈ (letters.dropWhile p).head?, ¬ p c := by
  intro c first
  have stopped := List.head?_dropWhile_not p letters
  rw [Option.mem_def.mp first] at stopped
  simpa using stopped

theorem trims_iff {letters middle : List Char} : Trims letters middle ↔ middle = trim letters := by
  constructor
  · rintro ⟨⟨front, back, rfl, before, after⟩, first, last⟩
    cases middle with
    | nil =>
        have blank : ∀ c ∈ front ++ [] ++ back, isBlank c := by
          rw [List.append_nil]
          exact List.all_eq_true.mp (by rw [List.all_append, before, after]; rfl)
        have gone : (front ++ [] ++ back ++ []).dropWhile isBlank = [] :=
          List.dropWhile_append_of_pos blank
        rw [List.append_nil] at gone
        rw [trim, trimBy, gone]
        rfl
    | cons c middle =>
        have left : (front ++ (c :: middle ++ back)).dropWhile isBlank = c :: middle ++ back :=
          dropWhile_front before first
        have right : (back.reverse ++ (c :: middle).reverse).dropWhile isBlank =
            (c :: middle).reverse :=
          dropWhile_front (by rwa [List.all_reverse]) (by rwa [List.head?_reverse])
        rw [trim, trimBy, List.append_assoc, left, List.reverse_append, right,
          List.reverse_reverse]
  · rintro rfl
    let kept := letters.dropWhile isBlank
    have right : kept = trim letters ++ (kept.reverse.takeWhile isBlank).reverse := by
      rw [trim, trimBy, ← List.reverse_append, List.takeWhile_append_dropWhile,
        List.reverse_reverse]
    refine ⟨⟨letters.takeWhile isBlank, (kept.reverse.takeWhile isBlank).reverse, ?_, ?_, ?_⟩,
      ?_, ?_⟩
    · rw [List.append_assoc, ← right, List.takeWhile_append_dropWhile]
    · exact List.all_takeWhile
    · rw [List.all_reverse]
      exact List.all_takeWhile
    · intro c first
      refine head?_dropWhile isBlank letters c ?_
      change c ∈ kept.head?
      rw [right, List.head?_append, Option.mem_def.mp first]
      rfl
    · intro c last
      rw [trim, trimBy, List.getLast?_reverse] at last
      exact head?_dropWhile isBlank _ c last

end LazyDispatch.Text
