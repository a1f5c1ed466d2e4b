import LazyDispatch.Signature.Parser
import Mathlib.Data.Finset.Card
import Mathlib.Data.List.Sections
import Mathlib.Algebra.BigOperators.Group.List.Basic

/-! What the expansion of a union text holds. It drops repetitions while the rows still grow, and
comes to the product of the groups without their own repetitions: each choice of one type from each
group once, in the order that the groups give. -/

namespace LazyDispatch

section

variable {α : Type} [BEq α] [LawfulBEq α]

theorem eraseDups_concat (values : List α) (value : α) :
    (values ++ [value]).eraseDups =
      if value ∈ values then values.eraseDups else values.eraseDups ++ [value] := by
  rw [List.eraseDups_append]
  split
  · rename_i known
    have gone : [value].removeAll values = [] := by simp [List.removeAll, known]
    rw [gone, List.eraseDups_nil, List.append_nil]
  · rename_i new
    have kept : [value].removeAll values = [value] := by simp [List.removeAll, new]
    rw [kept]
    rfl

theorem pairwise_eraseDups (values : List α) :
    values.eraseDups.Pairwise fun one other => values.idxOf one < values.idxOf other := by
  induction values using List.reverseRecOn with
  | nil => exact List.Pairwise.nil
  | append_singleton values value ih =>
      have older : values.eraseDups.Pairwise fun one other =>
          (values ++ [value]).idxOf one < (values ++ [value]).idxOf other := by
        refine ih.imp_of_mem ?_
        intro one other first second before
        rw [List.idxOf_append_of_mem (List.mem_eraseDups.mp first),
          List.idxOf_append_of_mem (List.mem_eraseDups.mp second)]
        exact before
      rw [eraseDups_concat]
      split
      · exact older
      · rename_i new
        refine List.pairwise_append.mpr ⟨older, List.pairwise_singleton _ _, ?_⟩
        intro one first other second
        have known := List.mem_eraseDups.mp first
        rw [List.mem_singleton.mp second, List.idxOf_append_of_mem known,
          List.idxOf_append_of_notMem new]
        exact Nat.lt_add_right _ (List.idxOf_lt_length_of_mem known)

theorem nodup_eraseDups (values : List α) : values.eraseDups.Nodup := by
  refine (pairwise_eraseDups values).imp ?_
  rintro one other before rfl
  exact Nat.lt_irrefl _ before

theorem length_eraseDups [DecidableEq α] (values : List α) :
    values.eraseDups.length = values.toFinset.card := by
  rw [← List.toFinset_card_of_nodup (nodup_eraseDups values)]
  congr 1
  ext value
  rw [List.mem_toFinset, List.mem_toFinset, List.mem_eraseDups]

theorem eraseDups_of_nodup {values : List α} (distinct : values.Nodup) :
    values.eraseDups = values := by
  induction values using List.reverseRecOn with
  | nil => rfl
  | append_singleton values value ih =>
      obtain ⟨front, -, apart⟩ := List.nodup_append.mp distinct
      have new : value ∉ values := fun known => apart value known value (by simp) rfl
      rw [eraseDups_concat, if_neg new, ih front]

end

namespace Signature

theorem lengthen_eq {rows : List (List Tag)} (distinct : rows.Nodup) (group : List Tag) :
    lengthen rows group = group.eraseDups.flatMap fun tag => rows.map (· ++ [tag]) := by
  rw [lengthen]
  induction group using List.reverseRecOn with
  | nil => rfl
  | append_singleton group tag ih =>
      rw [List.flatMap_append, List.flatMap_singleton, List.eraseDups_append, ih, eraseDups_concat]
      split
      · rename_i known
        have gone : (rows.map (· ++ [tag])).removeAll
            (group.flatMap fun tag => rows.map (· ++ [tag])) = [] := by
          rw [List.removeAll, List.filter_eq_nil_iff]
          intro row member
          simpa using ⟨tag, known, List.mem_map.mp member⟩
        rw [gone, List.eraseDups_nil, List.append_nil]
      · rename_i new
        -- Rows that end in different types differ, so none of the new rows is there.
        have kept : (rows.map (· ++ [tag])).removeAll
            (group.flatMap fun tag => rows.map (· ++ [tag])) = rows.map (· ++ [tag]) := by
          rw [List.removeAll, List.filter_eq_self]
          intro row member
          obtain ⟨short, -, rfl⟩ := List.mem_map.mp member
          have absent : short ++ [tag] ∉ group.flatMap fun tag => rows.map (· ++ [tag]) := by
            intro present
            obtain ⟨other, inside, mapped⟩ := List.mem_flatMap.mp present
            obtain ⟨front, -, same⟩ := List.mem_map.mp mapped
            obtain ⟨-, last⟩ := List.append_inj' same rfl
            exact new ((List.cons.inj last).1 ▸ inside)
          rw [List.elem_eq_mem, decide_eq_false absent]
          rfl
        have apart : (rows.map (· ++ [tag])).Nodup :=
          distinct.map fun _ _ same => List.append_cancel_right same
        rw [kept, eraseDups_of_nodup apart, List.flatMap_append, List.flatMap_singleton]

theorem foldl_lengthen {rows : List (List Tag)} (distinct : rows.Nodup)
    (groups : List (List Tag)) :
    groups.foldl lengthen rows =
      (groups.map List.eraseDups).sections.flatMap fun suffix => rows.map (· ++ suffix) := by
  induction groups generalizing rows with
  | nil => simp [List.sections]
  | cons group groups ih =>
      have longer : (lengthen rows group).Nodup := nodup_eraseDups _
      rw [List.foldl_cons, ih longer, lengthen_eq distinct]
      simp [List.sections, List.flatMap_assoc, List.flatMap_map, List.map_flatMap, Function.comp_def]

theorem expand_eq_sections (groups : List (List Tag)) :
    expand groups = (groups.map List.eraseDups).sections := by
  rw [expand, foldl_lengthen (List.nodup_singleton _)]
  simp

/-- One row stands before another: at the last place where they differ, it has the type that the
group of that place names first. -/
inductive Precedes : List (List Tag) → List Tag → List Tag → Prop where
  | here {group : List Tag} {groups : List (List Tag)} {tag other : Tag} {rest : List Tag}
      (before : group.idxOf tag < group.idxOf other) :
      Precedes (group :: groups) (tag :: rest) (other :: rest)
  | later {group : List Tag} {groups : List (List Tag)} {tag other : Tag} {rest others : List Tag}
      (before : Precedes groups rest others) :
      Precedes (group :: groups) (tag :: rest) (other :: others)

theorem Precedes.irrefl {groups : List (List Tag)} {row : List Tag} :
    ¬ Precedes groups row row := by
  induction row generalizing groups with
  | nil => rintro ⟨⟩
  | cons tag rest ih =>
      intro before
      cases before with
      | here before => exact Nat.lt_irrefl _ before
      | later before => exact ih before

/-- The rows are all choices of one type from each group, each once and in order. -/
structure Enumerates (groups rows : List (List Tag)) : Prop where
  mem : ∀ row, row ∈ rows ↔ List.Forall₂ (· ∈ ·) row groups
  once : rows.Nodup
  order : rows.Pairwise (Precedes groups)
  length : rows.length = (groups.map fun group => group.toFinset.card).prod

theorem pairwise_sections (groups : List (List Tag)) :
    (groups.map List.eraseDups).sections.Pairwise (Precedes groups) := by
  induction groups with
  | nil => exact List.pairwise_singleton _ _
  | cons group groups ih =>
      rw [List.map_cons, List.sections, List.pairwise_flatMap]
      constructor
      · intro rest member
        exact List.pairwise_map.mpr ((pairwise_eraseDups group).imp .here)
      · refine ih.imp ?_
        intro rest others before row first other second
        obtain ⟨tag, -, rfl⟩ := List.mem_map.mp first
        obtain ⟨next, -, rfl⟩ := List.mem_map.mp second
        exact .later before

theorem length_sections (groups : List (List Tag)) :
    (groups.map List.eraseDups).sections.length =
      (groups.map fun group => group.toFinset.card).prod := by
  induction groups with
  | nil => rfl
  | cons group groups ih =>
      simp only [List.map_cons, List.sections, List.length_flatMap, List.length_map,
        List.map_const', List.sum_replicate_nat, ih, List.prod_cons, length_eraseDups]
      exact Nat.mul_comm _ _

theorem enumerates_expand (groups : List (List Tag)) : Enumerates groups (expand groups) := by
  rw [expand_eq_sections]
  refine ⟨?_, ?_, pairwise_sections groups, length_sections groups⟩
  · intro row
    rw [List.mem_sections, List.forall₂_map_right_iff]
    simp only [List.mem_eraseDups]
  · refine (pairwise_sections groups).imp ?_
    rintro row other before rfl
    exact before.irrefl

end Signature
end LazyDispatch
