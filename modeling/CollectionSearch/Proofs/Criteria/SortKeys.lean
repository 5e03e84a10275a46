import CollectionSearch.Criteria.Sort
import CollectionSearch.Proofs.Text.Split
import CollectionSearch.Proofs.Text.Trim

/-!
# Appending a sort key

A key that is appended to a sort specification stands at the end of the text that is sent, and its
field at the end of the fields that are named. Two kinds of specifications are exceptions. One whose
text is empty, though it is no empty list, leaves an empty key in front. And a text of several keys
becomes one item of a list, which is read as a single key.

* `SortSpec.IsField` : names that can be told from the rest of a key.
* `SortSpec.IsSingle` : whether a text of keys names the same fields when it is read as one key.

**Main statements:** `andThen_appends_iff` says exactly when a key is appended to the text and to
the fields. `andThen_forgets_field` shows both exceptions.
-/

namespace CollectionSearch.SortSpec

/-! ## Names of fields -/

/-- A name that can be told from the rest of a key: it may be that of a field, has no blank ends,
and no colon. -/
structure IsField (field : String) : Prop where
  /-- It may be the name of a field. -/
  named : isFieldName field = true
  /-- It has no blank ends. -/
  trimmed : Text.trim field = field
  /-- It has no colon. -/
  colonFree : ':' ∉ field.toList

instance (field : String) : Decidable (IsField field) :=
  decidable_of_iff
    (isFieldName field = true ∧ Text.trim field = field ∧ ':' ∉ field.toList)
    ⟨fun ⟨named, trimmed, colonFree⟩ => ⟨named, trimmed, colonFree⟩,
      fun ⟨named, trimmed, colonFree⟩ => ⟨named, trimmed, colonFree⟩⟩

/-- The field of the key of a field is that field. -/
theorem keyField_key {field : String} (h : IsField field) (order : SortOrder) :
    keyField (key field order) = field := by
  have hhead : (":" ++ order.name).toList.head? = some ':' := by
    cases order <;> rfl
  rw [keyField, key, String.append_assoc, Text.beforeFirst_append h.colonFree hhead, h.trimmed]

/-- A name may be that of a field when it begins with another character than an underscore. -/
theorem isFieldName_eq_true_iff (name : String) :
    isFieldName name = true ↔ ∃ c, name.toList.head? = some c ∧ c ≠ '_' := by
  rw [isFieldName, Bool.and_eq_true, decide_eq_true_eq, String.front?_eq]
  rcases h : name.toList with _ | ⟨c, rest⟩
  · rw [String.toList_eq_nil_iff] at h
    simp [h]
  · have hne : name.isEmpty = false := by
      rw [Bool.eq_false_iff]
      intro hempty
      rw [String.isEmpty_iff.mp hempty] at h
      cases h
    simp [hne]

/-- A text without its blank ends may be the name of a field when the first character that is not
blank is not an underscore. -/
theorem isFieldName_trim_iff (s : String) :
    isFieldName (Text.trim s) = true ↔
      ∃ c, (s.toList.find? fun c => !Text.isSpace c) = some c ∧ c ≠ '_' := by
  rw [isFieldName_eq_true_iff, Text.trim, String.toList_ofList, Text.head?_trimChars]

/-- That depends only on the beginning of the text. -/
theorem isFieldName_trim_of_prefix {s t : String} (hst : s.toList <+: t.toList)
    (h : isFieldName (Text.trim s) = true) : isFieldName (Text.trim t) = true := by
  rw [isFieldName_trim_iff] at h ⊢
  obtain ⟨c, hc, hne⟩ := h
  obtain ⟨rest, hrest⟩ := hst
  refine ⟨c, ?_, hne⟩
  rw [← hrest, List.find?_append, hc]
  rfl

/-- A comma before the first colon of a key belongs to the name of its field. -/
theorem comma_mem_keyField_iff (key : String) :
    ',' ∈ (keyField key).toList ↔ ',' ∈ (Text.beforeFirst ':' key).toList := by
  rw [keyField, Text.trim, String.toList_ofList]
  exact ⟨fun h => Text.trimChars_subset _ h, Text.mem_trimChars_of_not_isSpace (by decide)⟩

/-! ## Texts of several keys -/

/-- Whether a text of keys names the same fields when it is read as one key. -/
structure IsSingle (keys : String) : Prop where
  /-- A comma before the first colon does no harm only if no field is named there. -/
  front : ',' ∈ (Text.beforeFirst ':' keys).toList → isFieldName (keyField keys) = false
  /-- The keys after the first one name no fields. -/
  others : ∀ key ∈ (Text.split ',' keys).tail, isFieldName (keyField key) = false

/-- The fields of a text of keys are those of the first and of the other ones. -/
theorem fields_one_eq (keys : String) :
    (one keys).fields =
      ([keyField (Text.beforeFirst ',' keys)].filter isFieldName) ++
        ((Text.split ',' keys).tail.map keyField).filter isFieldName := by
  rw [fields, SortSpec.keys, Text.split_eq_cons, List.map_cons, List.tail_cons,
    ← List.filter_append]
  rfl

/-- The first key names a field only if the text does, read as one key. -/
theorem isFieldName_keyField_of_first {keys : String}
    (h : isFieldName (keyField (Text.beforeFirst ',' keys)) = true) :
    isFieldName (keyField keys) = true := by
  rw [keyField, Text.beforeFirst_comm] at h
  exact isFieldName_trim_of_prefix (Text.toList_beforeFirst_prefix ',' _) h

/-- Without a comma before the first colon both name the same. -/
theorem keyField_first {keys : String} (h : ',' ∉ (Text.beforeFirst ':' keys).toList) :
    keyField (Text.beforeFirst ',' keys) = keyField keys := by
  rw [keyField, Text.beforeFirst_comm, Text.beforeFirst_of_not_mem h, keyField]

/-- The keys after the first one name no fields exactly if they add none. -/
theorem filter_tail_eq_nil_iff (keys : String) :
    ((Text.split ',' keys).tail.map keyField).filter isFieldName = [] ↔
      ∀ key ∈ (Text.split ',' keys).tail, isFieldName (keyField key) = false := by
  simp only [List.filter_eq_nil_iff, List.forall_mem_map, Bool.not_eq_true]

/-- No field of a text of keys has a comma in its name. -/
theorem comma_not_mem_of_mem_fields_one {keys name : String} (h : name ∈ (one keys).fields) :
    ',' ∉ name.toList := by
  obtain ⟨key, hkey, rfl⟩ := List.mem_map.mp (List.mem_filter.mp h).1
  rw [comma_mem_keyField_iff]
  intro hmem
  exact Text.not_mem_of_mem_split hkey ((Text.toList_beforeFirst_prefix ':' key).subset hmem)

/-- **A text of keys names the same fields as one key exactly if it is single.** -/
theorem fields_many_singleton_iff (keys : String) :
    (many [keys]).fields = (one keys).fields ↔ IsSingle keys := by
  have hmany : (many [keys]).fields = [keyField keys].filter isFieldName := rfl
  constructor
  · intro h
    have hfront :
        ',' ∈ (Text.beforeFirst ':' keys).toList → isFieldName (keyField keys) = false := by
      intro hcomma
      rw [← Bool.not_eq_true]
      intro hname
      have hmem : keyField keys ∈ (one keys).fields := by
        rw [← h, hmany, List.filter_cons_of_pos hname]
        exact List.mem_cons_self
      exact comma_not_mem_of_mem_fields_one hmem ((comma_mem_keyField_iff keys).mpr hcomma)
    refine ⟨hfront, (filter_tail_eq_nil_iff keys).mp ?_⟩
    rw [hmany, fields_one_eq] at h
    by_cases hname : isFieldName (keyField keys) = true
    · -- the first key names what the text names, so nothing is left for the others
      have hcomma : ',' ∉ (Text.beforeFirst ':' keys).toList := fun hmem => by
        rw [hfront hmem] at hname
        cases hname
      rw [keyField_first hcomma] at h
      exact List.append_right_eq_self.mp h.symm
    · rw [List.filter_cons_of_neg hname] at h
      exact (List.append_eq_nil_iff.mp h.symm).2
  · intro h
    rw [hmany, fields_one_eq, (filter_tail_eq_nil_iff keys).mpr h.others, List.append_nil]
    by_cases hcomma : ',' ∈ (Text.beforeFirst ':' keys).toList
    · have hname : ¬ isFieldName (keyField keys) = true := by
        rw [h.front hcomma]
        exact Bool.false_ne_true
      have hfirst : ¬ isFieldName (keyField (Text.beforeFirst ',' keys)) = true :=
        mt isFieldName_keyField_of_first hname
      rw [List.filter_cons_of_neg hname, List.filter_cons_of_neg hfirst]
    · rw [keyField_first hcomma]

/-! ## Appending -/

/-- The keys of a specification as they are listed once a key is appended. -/
def listed : SortSpec → List String
  | one keys => [keys]
  | many keys => keys

section andThen

variable (field : String) (order : SortOrder) (spec : SortSpec)

theorem andThen_eq_many : spec.andThen field order = many (spec.listed ++ [key field order]) := by
  cases spec <;> rfl

/-- The listed keys have the same text. -/
theorem text_eq_intercalate_listed : spec.text = ",".intercalate spec.listed := by
  cases spec with
  | one keys => exact String.intercalate_singleton.symm
  | many keys => rfl

/-- The key stands after a comma, unless no key is listed. -/
theorem text_andThen :
    (spec.andThen field order).text =
      if spec.listed = [] then key field order else spec.text ++ "," ++ key field order := by
  rw [andThen_eq_many, text]
  split
  case isTrue hnil => rw [hnil, List.nil_append, String.intercalate_singleton]
  case isFalse hne =>
    rw [String.intercalate_append_of_ne_nil hne (List.cons_ne_nil _ _),
      String.intercalate_singleton, text_eq_intercalate_listed]

/-- With a key more there is always something to sort by. -/
theorem toParam_andThen :
    (spec.andThen field order).toParam = some (spec.andThen field order).text := by
  have hkey : key field order ≠ "" := by simp [key]
  have hne : (spec.andThen field order).text ≠ "" := by
    rw [text_andThen]
    split
    · exact hkey
    · exact fun h => hkey (String.append_eq_empty_iff.mp h).2
  rw [toParam, if_neg (mt String.isEmpty_iff.mp hne)]

/-- A list of keys names its fields and that of the appended key. -/
theorem fields_andThen {field : String} (h : IsField field) :
    (spec.andThen field order).fields = (many spec.listed).fields ++ [field] := by
  rw [andThen_eq_many, fields, keys, List.map_append, List.filter_append, List.map_singleton,
    keyField_key h, List.filter_cons_of_pos h.named, List.filter_nil]
  rfl

/-- The text is empty though a key is listed in two cases. -/
theorem text_eq_empty_and_listed_ne_nil_iff :
    spec.text = "" ∧ spec.listed ≠ [] ↔ spec = one "" ∨ spec = many [""] := by
  cases spec with
  | one keys => simp [text, listed]
  | many keys =>
    rcases keys with _ | ⟨first, others⟩
    · simp [listed]
    · simp [text, listed, Text.intercalate_cons_eq_empty_iff]

/-- **A key is appended to the text that is sent unless an empty key is listed alone, and its field
to the fields that are named unless the specification is a text that is not single.** -/
theorem andThen_appends_iff {field : String} (h : IsField field) :
    ((spec.andThen field order).toParam =
        some (spec.toParam.elim (key field order) (· ++ "," ++ key field order)) ↔
      spec ≠ one "" ∧ spec ≠ many [""]) ∧
    ((spec.andThen field order).fields = spec.fields ++ [field] ↔
      ∀ keys, spec = one keys → IsSingle keys) := by
  constructor
  · rw [← not_or, ← text_eq_empty_and_listed_ne_nil_iff, toParam_andThen, Option.some.injEq,
      text_andThen, toParam]
    by_cases htext : spec.text = ""
    · by_cases hnil : spec.listed = []
      · simp [htext, hnil]
      · -- an empty key stands in front of the comma
        simp [htext, hnil]
    · have hne : spec.listed ≠ [] := fun hnil => htext (by
        rw [text_eq_intercalate_listed, hnil]
        rfl)
      simp [htext, hne]
  · rw [fields_andThen order spec h, List.append_left_inj]
    cases spec with
    | one keys => simp [listed, fields_many_singleton_iff]
    | many keys => simp [listed]

end andThen

/-- Both hold for two keys in one text, the first of which has blanks and the other of which the
search service computes. -/
theorem andThen_appends_iff_price :
    IsField "rank" ∧
      ((one " price : desc,_text_match").andThen "rank" .asc).toParam =
        some " price : desc,_text_match,rank:asc" ∧
      ((one " price : desc,_text_match").andThen "rank" .asc).fields = ["price", "rank"] := by
  have hfield : IsField "rank" := by decide
  obtain ⟨hparam, hfields⟩ :=
    andThen_appends_iff .asc (one " price : desc,_text_match") hfield
  refine ⟨hfield, ?_, ?_⟩
  · refine (hparam.mpr ⟨by decide, by decide⟩).trans ?_
    decide
  · refine (hfields.mpr ?_).trans (by decide)
    rintro keys ⟨⟩
    exact ⟨by decide, by decide⟩

/-- A key that is appended to several keys in one text takes the fields of all but the first of them
away, and one that is appended to an empty text is sent after an empty key. -/
theorem andThen_forgets_field :
    ((one "price:desc,name:asc").fields = ["price", "name"] ∧
      ((one "price:desc,name:asc").andThen "rank" .asc).fields = ["price", "rank"]) ∧
    ((one "").toParam = none ∧ ((one "").andThen "name" .asc).toParam = some ",name:asc") := by
  decide

end CollectionSearch.SortSpec
