import LazyDispatch.Proofs.Registering

/-! Unions in the text of a single operation. What the parameter groups offer comes once for each
type that the last group names. So the parameters of the signatures differ from each other as long
as that is one type, and a second one repeats them all. -/

namespace LazyDispatch

theorem nodup_flatten_replicate {α : Type} {values : List α} (distinct : values.Nodup)
    (some : values ≠ []) (times : Nat) :
    (List.replicate times values).flatten.Nodup ↔ times ≤ 1 := by
  match times with
  | 0 => simp
  | 1 => simpa using distinct
  | times + 2 =>
      obtain ⟨value, member⟩ := List.exists_mem_of_ne_nil values some
      have again : value ∈ (List.replicate (times + 1) values).flatten := by
        rw [List.replicate_succ, List.flatten_cons]
        exact List.mem_append_left _ member
      rw [List.replicate_succ, List.flatten_cons]
      constructor
      · intro apart
        exact absurd rfl ((List.nodup_append.mp apart).2.2 value member value again)
      · intro few
        omega

theorem length_eraseDups_le_one_iff {α : Type} [DecidableEq α] {values : List α} :
    values.eraseDups.length ≤ 1 ↔ ∀ one ∈ values, ∀ other ∈ values, one = other := by
  rw [length_eraseDups, Finset.card_le_one]
  simp only [List.mem_toFinset]

def Tag.Among (group : List (List Char)) (tag : Tag) : Prop :=
  ∃ alternative ∈ group, Names alternative tag

namespace Signature

theorem expand_concat (groups : List (List Tag)) (last : List Tag) :
    expand (groups ++ [last]) =
      last.eraseDups.flatMap fun tag => (expand groups).map (· ++ [tag]) := by
  rw [expand, List.foldl_append, List.foldl_cons, List.foldl_nil]
  exact lengthen_eq (enumerates_expand groups).once last

theorem dropLast_types (signature : Signature) : signature.types.dropLast = signature.params :=
  List.dropLast_concat

/-- The parameters of all that a text means: what the groups before the last one offer, as often as
the last one names another type. -/
theorem params_expand {groups : List (List Tag)} {last : List Tag} (some : groups ≠ []) :
    ((expand (groups ++ [last])).filterMap ofTypes?).map params =
      (List.replicate last.eraseDups.length (expand groups)).flatten := by
  have two : 2 ≤ (groups ++ [last]).length := by
    rw [List.length_append, List.length_singleton]
    have one := List.length_pos_iff.mpr some
    omega
  have init : params = List.dropLast ∘ types :=
    funext fun signature => signature.dropLast_types.symm
  rw [init, ← List.map_map, types_expand two, expand_concat, List.map_flatMap]
  simp [Function.comp_def, List.flatMap_def]

theorem Denote.of_concat {groups : List (List (List Char))} {last : List (List Char)}
    {types : List (List Tag)} (denote : Denote (groups ++ [last]) types) :
    ∃ front tags, types = front ++ [tags] ∧ Denote groups front ∧
      List.Forall₂ Tag.Names last tags := by
  induction groups generalizing types with
  | nil =>
      cases denote with
      | cons names rest =>
          cases rest
          exact ⟨[], _, rfl, .nil, names⟩
  | cons group groups ih =>
      cases denote with
      | cons names rest =>
          obtain ⟨front, tags, rfl, denote, last⟩ := ih rest
          exact ⟨_ :: front, tags, rfl, .cons names denote, last⟩

theorem mem_iff_among {group : List (List Char)} {tags : List Tag}
    (names : List.Forall₂ Tag.Names group tags) (tag : Tag) :
    tag ∈ tags ↔ Tag.Among group tag := by
  induction names with
  | nil => simp [Tag.Among]
  | @cons alternative named group tags here _ ih =>
      have only : tag = named ↔ Tag.Names alternative tag := by
        rw [← Tag.ofLetters?_trim_eq_some_iff] at here ⊢
        rw [here, Option.some.injEq, eq_comm]
      rw [List.mem_cons, only, ih, Tag.Among, Tag.Among, List.exists_mem_cons_iff]

theorem nodup_params_iff {text : String} {signatures : List Signature}
    (parsed : parse text = .ok signatures) :
    ∃ parameters returns, groupsOf text.toList = parameters ++ [returns] ∧
      ((signatures.map params).Nodup ↔ ∃! tag, Tag.Among returns tag) := by
  obtain ⟨two, types, denote, rfl⟩ := read_eq_some_iff.mp (parse_eq_ok_iff.mp parsed)
  have named := denote.some
  rcases List.eq_nil_or_concat' (groupsOf text.toList) with none | ⟨parameters, returns, split⟩
  · rw [none] at two
    simp at two
  rw [split] at two denote
  obtain ⟨front, tags, rfl, parametersDenote, returnsDenote⟩ := denote.of_concat
  have some : front ≠ [] := by
    rw [← List.length_pos_iff, ← parametersDenote.length_eq]
    rw [List.length_append, List.length_singleton] at two
    omega
  obtain ⟨tag, member⟩ := List.exists_mem_of_ne_nil tags (named tags (by simp))
  have offers : expand front ≠ [] :=
    expand_ne_nil fun group inside => named group (List.mem_append_left _ inside)
  refine ⟨parameters, returns, split, ?_⟩
  rw [params_expand some, nodup_flatten_replicate (enumerates_expand front).once offers,
    length_eraseDups_le_one_iff]
  simp only [mem_iff_among returnsDenote] at member ⊢
  constructor
  · intro same
    exact ⟨tag, member, fun other among => same other among tag member⟩
  · rintro ⟨only, -, same⟩ one among other also
    exact (same one among).trans (same other also).symm

end Signature

namespace Registry

theorem signatures_push_empty (policy : DuplicatePolicy) (overload : Overload) (name : String) :
    ((empty.withPolicy policy).push overload).signatures name =
      if name = overload.operation then overload.signatures else [] := by
  rw [signatures, overloads_push]
  split
  · exact List.append_nil _
  · rfl

theorem exists_snapshot_iff {registry : Registry} :
    (∃ snapshot, registry.snapshot = .ok snapshot) ↔ ∀ name, registry.Unambiguous name := by
  rw [← clash?_eq_none_iff, snapshot]
  cases registry.clash? <;> simp

theorem ambiguous_of_snapshot {registry : Registry} {clash : Clash}
    (refused : registry.snapshot = .error clash) : ¬ registry.Unambiguous clash.operation := by
  rw [snapshot] at refused
  split at refused
  · rename_i found
    cases refused
    exact (offends_of_clash found).ambiguous
  · cases refused

theorem snapshot_push_empty (policy : DuplicatePolicy) (overload : Overload) :
    ((∃ snapshot, ((empty.withPolicy policy).push overload).snapshot = .ok snapshot) ↔
        (overload.signatures.map Signature.params).Nodup) ∧
      ∀ clash, ((empty.withPolicy policy).push overload).snapshot = .error clash →
        clash.operation = overload.operation := by
  have only (name : String) : ((empty.withPolicy policy).push overload).Unambiguous name ↔
      (name = overload.operation → (overload.signatures.map Signature.params).Nodup) := by
    rw [unambiguous_iff, signatures_push_empty]
    split
    · rename_i same
      simp [same]
    · rename_i other
      simp [other]
  simp only [exists_snapshot_iff, only]
  refine ⟨⟨fun clear => clear _ rfl, fun distinct _ _ => distinct⟩, ?_⟩
  intro clash refused
  have ambiguous := ambiguous_of_snapshot refused
  rw [only, Classical.not_imp] at ambiguous
  exact ambiguous.1

/-- A registry with one operation, registered by one text, has a snapshot exactly when the last
group of the text names one type, in whatever spellings and however often. Two types there make the
operation ambiguous; its parameter groups never do. -/
theorem one_text_snapshot {text : String} (reads : Signature.Reads text) {reference : Reference}
    {callable : Callable} (means : reference.Means callable) (name : String)
    (policy : DuplicatePolicy) :
    ∃ parameters returns signatures registry events,
      (∀ groups, Signature.Written text.toList groups ↔ groups = parameters ++ [returns]) ∧
      Signature.parse text = .ok signatures ∧
      (empty.withPolicy policy).edit (.operation name [text] reference) =
        .ok (registry, events) ∧
      (empty.withPolicy policy).Gains ⟨name, signatures, callable⟩ registry ∧
      ((∃ snapshot, registry.snapshot = .ok snapshot) ↔ ∃! tag, Tag.Among returns tag) ∧
      ∀ tag other, Tag.Among returns tag → Tag.Among returns other → tag ≠ other →
        ∃ clash, registry.snapshot = .error clash ∧ clash.operation = name := by
  obtain ⟨signatures, parsed⟩ := reads
  obtain ⟨parameters, returns, split, distinct⟩ := Signature.nodup_params_iff parsed
  have read : List.Forall₂ (fun text list => Signature.parse text = .ok list) [text]
      [signatures] := .cons parsed .nil
  have once : [signatures].flatten.eraseDups = signatures := by
    rw [List.flatten_singleton, eraseDups_of_nodup (Signature.nodup_of_parse parsed)]
  have new : ¬ (empty.withPolicy policy).Holds name [signatures].flatten := by
    rintro ⟨held, member, -⟩
    cases member
  have edited := ((empty.withPolicy policy).edit_of_read name means read).2 fun _ => new
  rw [once] at edited
  obtain ⟨taken, named⟩ := snapshot_push_empty policy ⟨name, signatures, callable⟩
  rw [distinct] at taken
  refine ⟨parameters, returns, signatures, _, _, fun groups => split ▸ Signature.written_iff,
    parsed, edited, gains_iff.mpr rfl, taken, ?_⟩
  intro tag other among also apart
  cases outcome : ((empty.withPolicy policy).push ⟨name, signatures, callable⟩).snapshot with
  | ok snapshot =>
      have unique := taken.mp ⟨snapshot, outcome⟩
      exact absurd (unique.unique among also) apart
  | error clash => exact ⟨clash, rfl, named clash outcome⟩

namespace Aliased

def text : String := "List|any -> Any|Any -> Array | map"

def returns : List (List Char) := [" Array ".toList, " map".toList]

theorem reads : Signature.Reads text := ⟨_, rfl⟩

theorem written : Signature.Written text.toList
    ([["List".toList, "any ".toList], [" Any".toList, "Any ".toList]] ++ [returns]) :=
  Signature.written_iff.mpr rfl

theorem unique : ∃! tag, Tag.Among returns tag := by
  have names : List.Forall₂ Tag.Names returns [.map, .map] :=
    .cons (Tag.ofLetters?_trim_eq_some_iff.mp rfl)
      (.cons (Tag.ofLetters?_trim_eq_some_iff.mp rfl) .nil)
  simp only [← Signature.mem_iff_among names]
  exact ⟨.map, by decide, by decide⟩

end Aliased

theorem one_text_snapshot_aliased :
    Signature.Reads Aliased.text ∧ (Reference.named "count").Means (.native .count) ∧
      ∃ registry events,
        (empty.withPolicy .defer).edit (.operation "size" [Aliased.text] (.named "count")) =
          .ok (registry, events) ∧
        ∃ snapshot, registry.snapshot = .ok snapshot := by
  have means : (Reference.named "count").Means (.native .count) := .native .count
  obtain ⟨parameters, returns, signatures, registry, events, written, -, edited, -, taken, -⟩ :=
    one_text_snapshot Aliased.reads means "size" .defer
  obtain ⟨-, last⟩ := List.append_inj' ((written _).mp Aliased.written) rfl
  obtain rfl : Aliased.returns = returns := (List.cons.inj last).1
  exact ⟨Aliased.reads, means, registry, events, edited, taken.mpr Aliased.unique⟩

end Registry
end LazyDispatch
