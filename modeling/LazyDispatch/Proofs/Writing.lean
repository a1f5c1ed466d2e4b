import LazyDispatch.Proofs.Parsing
import LazyDispatch.Registry.Edit

/-! Signatures as they are written. The text of a signature has the names of its types between
arrows, and is read back as that signature alone. Texts that are read mean some signatures, and
several texts mean each of theirs once. -/

namespace LazyDispatch

theorem mapM_eq_ok_iff {ε α β : Type} {f : α → Except ε β} {values : List α} {images : List β} :
    values.mapM f = .ok images ↔
      List.Forall₂ (fun value image => f value = .ok image) values images := by
  induction values generalizing images with
  | nil => cases images <;> simp [pure, Except.pure]
  | cons value values ih =>
      rw [List.mapM_cons]
      cases first : f value with
      | error failure => cases images <;> simp [first, bind, Except.bind]
      | ok image =>
          cases rest : values.mapM f with
          | error failure => cases images <;> simp [first, rest, ← ih, bind, Except.bind]
          | ok others =>
              cases images <;> simp [first, rest, ← ih, bind, Except.bind, pure, Except.pure]

namespace Tag

def Padded (letters : List Char) (tag : Tag) : Prop :=
  ∃ before after, letters = before ++ tag.name.toList ++ after ∧
    before.all Text.isBlank ∧ after.all Text.isBlank

theorem not_isBlank_of_mem_name (tag : Tag) : ∀ c ∈ tag.name.toList, ¬ Text.isBlank c := by
  have visible : tag.name.toList.all (fun c => !Text.isBlank c) = true := by cases tag <;> rfl
  simpa using visible

theorem marks_notMem_name (tag : Tag) : '-' ∉ tag.name.toList ∧ '|' ∉ tag.name.toList := by
  cases tag <;> decide

variable {letters : List Char} {tag : Tag}

theorem Padded.notMem (padded : Padded letters tag) {mark : Char} (visible : ¬ Text.isBlank mark)
    (foreign : mark ∉ tag.name.toList) : mark ∉ letters := by
  obtain ⟨before, after, rfl, front, back⟩ := padded
  simp only [List.mem_append, not_or]
  exact ⟨⟨fun member => visible (List.all_eq_true.mp front mark member), foreign⟩,
    fun member => visible (List.all_eq_true.mp back mark member)⟩

theorem Padded.names (padded : Padded letters tag) : Names letters tag := by
  have visible := tag.not_isBlank_of_mem_name
  refine ⟨tag.name.toList, ⟨padded, ?_, ?_⟩, tag.name, .name tag, rfl⟩
  · exact fun c first => visible c (List.mem_of_head? first)
  · exact fun c last => visible c (List.mem_of_getLast? last)

end Tag

namespace Signature

def fields (before : List Char) : List Tag → List (List Char)
  | [] => []
  | [last] => [before ++ last.name.toList]
  | tag :: next :: rest => (before ++ tag.name.toList ++ [' ']) :: fields [' '] (next :: rest)

theorem fields_ne_nil (before : List Char) {tags : List Tag} (some : tags ≠ []) :
    fields before tags ≠ [] := by
  match tags, some with
  | [last], _ => exact List.cons_ne_nil _ _
  | tag :: next :: rest, _ => exact List.cons_ne_nil _ _

theorem intercalate_fields (before : List Char) {tags : List Tag} (some : tags ≠ []) :
    Text.arrow.intercalate (fields before tags) =
      before ++ " -> ".toList.intercalate (tags.map fun tag => tag.name.toList) := by
  induction tags generalizing before with
  | nil => exact absurd rfl some
  | cons tag rest ih =>
      cases rest with
      | nil => simp [fields]
      | cons next rest =>
          have more : next :: rest ≠ [] := List.cons_ne_nil next rest
          rw [fields, List.intercalate_cons_of_ne_nil (fields_ne_nil _ more), ih [' '] more]
          simp [Text.arrow, List.append_assoc]

theorem fields_padded {before : List Char} (blank : before.all Text.isBlank) (tags : List Tag) :
    List.Forall₂ Tag.Padded (fields before tags) tags := by
  induction tags generalizing before with
  | nil => exact .nil
  | cons tag rest ih =>
      cases rest with
      | nil => exact .cons ⟨before, [], (List.append_nil _).symm, blank, rfl⟩ .nil
      | cons next rest => exact .cons ⟨before, [' '], rfl, blank, rfl⟩ (ih rfl)

theorem padded_of_mem_fields {field : List Char} {tags : List Tag}
    (member : field ∈ fields [] tags) : ∃ tag, Tag.Padded field tag := by
  have padded : List.Forall₂ Tag.Padded (fields [] tags) tags := fields_padded rfl tags
  exact exists_forall₂_iff.mp ⟨tags, padded⟩ field member

theorem groupsOf_display (signature : Signature) :
    groupsOf signature.display.toList = (fields [] signature.types).map fun field => [field] := by
  have some : signature.types ≠ [] := List.cons_ne_nil _ _
  have letters : Text.arrow.intercalate (fields [] signature.types) = signature.display.toList := by
    rw [intercalate_fields [] some, display, String.toList_intercalate, List.map_map]
    rfl
  have arrows : Text.Cuts Text.arrow signature.display.toList (fields [] signature.types) := by
    refine ⟨fields_ne_nil [] some, letters, ?_⟩
    intro field member inside
    obtain ⟨tag, padded⟩ := padded_of_mem_fields member
    exact padded.notMem (by decide) tag.marks_notMem_name.1 (inside.subset List.mem_cons_self)
  refine (written_iff.mp ⟨_, arrows, ?_⟩).symm
  rw [List.forall₂_map_right_iff, List.forall₂_same]
  intro field member
  obtain ⟨tag, padded⟩ := padded_of_mem_fields member
  refine ⟨List.cons_ne_nil _ _, List.intercalate_singleton, ?_⟩
  intro alternative only inside
  rw [List.mem_singleton.mp only] at inside
  exact padded.notMem (by decide) tag.marks_notMem_name.2 (inside.subset List.mem_cons_self)

theorem expand_singletons (tags : List Tag) : expand (tags.map fun tag => [tag]) = [tags] := by
  rw [expand_eq_sections]
  induction tags with
  | nil => rfl
  | cons tag rest ih =>
      have once : [tag].eraseDups = [tag] := rfl
      rw [List.map_cons, List.map_cons, List.sections, ih, once]
      rfl

theorem parse_display (signature : Signature) : parse signature.display = .ok [signature] := by
  have padded : List.Forall₂ Tag.Padded (fields [] signature.types) signature.types :=
    fields_padded rfl _
  have read : read signature.display.toList = some [signature] := by
    refine read_eq_some_iff.mpr ⟨?_, signature.types.map fun tag => [tag], ?_, ?_⟩
    · rw [groupsOf_display, List.length_map, padded.length_eq, types, params]
      simp
    · rw [groupsOf_display, Denote, List.forall₂_map_left_iff, List.forall₂_map_right_iff]
      exact padded.imp fun _ _ padded => .cons padded.names .nil
    · rw [expand_singletons, List.filterMap_cons, ofTypes?_types]
      rfl
  rw [parse, read]

theorem parse_eq_ok_iff {text : String} {signatures : List Signature} :
    parse text = .ok signatures ↔ read text.toList = some signatures := by
  rw [parse]
  cases read text.toList <;> simp

theorem Denote.some {letters : List Char} {types : List (List Tag)}
    (denote : Denote (groupsOf letters) types) : ∀ group ∈ types, group ≠ [] := by
  rw [Denote, groupsOf, List.forall₂_map_left_iff] at denote
  intro group member
  obtain ⟨field, names⟩ := exists_forall₂_iff.mp ⟨_, denote.flip⟩ group member
  have some : Text.cutAt '|' field ≠ [] := ((Text.cuts_cutAt '|' field _).mpr rfl).some
  rw [← List.length_pos_iff, names.length_eq, List.length_pos_iff] at some
  exact some

theorem expand_ne_nil {groups : List (List Tag)} (named : ∀ group ∈ groups, group ≠ []) :
    expand groups ≠ [] := by
  have some : ∀ group ∈ groups, ∃ tag, tag ∈ group :=
    fun group member => List.exists_mem_of_ne_nil group (named group member)
  obtain ⟨row, picks⟩ := exists_forall₂_iff.mpr some
  exact List.ne_nil_of_mem (((enumerates_expand groups).mem row).mpr picks.flip)

theorem ne_nil_of_parse {text : String} {signatures : List Signature}
    (parsed : parse text = .ok signatures) : signatures ≠ [] := by
  obtain ⟨two, types, denote, rfl⟩ := read_eq_some_iff.mp (parse_eq_ok_iff.mp parsed)
  have rows := expand_ne_nil denote.some
  rw [denote.length_eq] at two
  rw [← types_expand two] at rows
  exact fun none => rows (congrArg (List.map Signature.types) none)

theorem nodup_of_parse {text : String} {signatures : List Signature}
    (parsed : parse text = .ok signatures) : signatures.Nodup := by
  obtain ⟨two, types, denote, rfl⟩ := read_eq_some_iff.mp (parse_eq_ok_iff.mp parsed)
  rw [denote.length_eq] at two
  have rows : (((expand types).filterMap ofTypes?).map Signature.types).Nodup := by
    rw [types_expand two]
    exact (enumerates_expand types).once
  exact rows.of_map

theorem parseAll_eq_ok_iff {texts : List String} {signatures : List Signature} :
    parseAll texts = .ok signatures ↔
      ∃ lists, List.Forall₂ (fun text list => parse text = .ok list) texts lists ∧
        signatures = lists.flatten.eraseDups := by
  simp only [← mapM_eq_ok_iff]
  rw [parseAll]
  cases texts.mapM parse with
  | error failure => simp [bind, Except.bind]
  | ok lists => simp [bind, Except.bind, pure, Except.pure, eq_comm]

theorem nodup_of_parseAll {texts : List String} {signatures : List Signature}
    (parsed : parseAll texts = .ok signatures) : signatures.Nodup := by
  obtain ⟨lists, -, rfl⟩ := parseAll_eq_ok_iff.mp parsed
  exact nodup_eraseDups _

theorem ne_nil_of_parseAll {texts : List String} {signatures : List Signature} (some : texts ≠ [])
    (parsed : parseAll texts = .ok signatures) : signatures ≠ [] := by
  obtain ⟨lists, each, rfl⟩ := parseAll_eq_ok_iff.mp parsed
  cases each with
  | nil => exact absurd rfl some
  | cons first _ =>
      obtain ⟨signature, member⟩ := List.exists_mem_of_ne_nil _ (ne_nil_of_parse first)
      refine List.ne_nil_of_mem (a := signature) ?_
      rw [List.mem_eraseDups, List.flatten_cons]
      exact List.mem_append_left _ member

theorem parseAll_display (signature : Signature) :
    parseAll [signature.display] = .ok [signature] :=
  parseAll_eq_ok_iff.mpr ⟨[[signature]], .cons signature.parse_display .nil, rfl⟩

def parseEach (texts : List String) : Except Failure (List Signature) :=
  return (← texts.mapM parse).flatten

theorem forall₂_parse_display (signatures : List Signature) :
    List.Forall₂ (fun text list => parse text = .ok list) (signatures.map display)
      (signatures.map fun signature => [signature]) := by
  rw [List.forall₂_map_left_iff, List.forall₂_map_right_iff, List.forall₂_same]
  intro signature _
  exact signature.parse_display

theorem flatten_singletons {α : Type} (values : List α) :
    (values.map fun value => [value]).flatten = values := by
  rw [← List.flatMap_def, List.flatMap_singleton']

/-- Writing and reading are inverse. The text of a signature means that signature alone; and the
texts of all that some text means, read one by one, come to the same list again, in which nothing is
repeated. -/
theorem parse_display_inverse :
    (∀ signature : Signature, parse signature.display = .ok [signature]) ∧
      ∀ text signatures, parse text = .ok signatures →
        parseEach (signatures.map display) = .ok signatures ∧
          parseAll (signatures.map display) = .ok signatures := by
  refine ⟨parse_display, ?_⟩
  intro text signatures parsed
  have each := forall₂_parse_display signatures
  constructor
  · rw [parseEach, mapM_eq_ok_iff.mpr each]
    exact congrArg Except.ok (flatten_singletons signatures)
  · refine parseAll_eq_ok_iff.mpr ⟨_, each, ?_⟩
    rw [flatten_singletons, eraseDups_of_nodup (nodup_of_parse parsed)]

theorem parse_display_inverse_union :
    parse " Number | ARRAY|map->any" = .ok [⟨.number, [], .any⟩, ⟨.map, [], .any⟩] ∧
      parseEach ["Number -> Any", "Map -> Any"] =
        .ok [⟨.number, [], .any⟩, ⟨.map, [], .any⟩] := by
  have parsed : parse " Number | ARRAY|map->any" = .ok [⟨.number, [], .any⟩, ⟨.map, [], .any⟩] :=
    rfl
  exact ⟨parsed, (parse_display_inverse.2 _ _ parsed).1⟩

end Signature
end LazyDispatch
