import CollectionSearch.Proofs.Filter.Decoder

/-!
# Filters that are compiled without a warning

A value is warned of when it holds a delimiter. What can still be misread without a warning are the
values that go on like the operator in front of them, since the operators end in `=`, `>` and `<`
and these are no delimiters, and the list of the empty text, which is written as the empty list is.

* `IsName`, `Filter.Named` : fields of letters, digits, underscores and dots.
* `Filter.Silent` : whether a filter is compiled without a warning.

**Main statements:** `expression_eq_iff_of_silent` says when two filters that are compiled without a
warning have the same expression, `exists_silent_ambiguity` that this happens to filters that do not
say the same.
-/

namespace CollectionSearch

/-! ## Names -/

/-- Whether a character is a letter, a digit, an underscore or a dot. Beyond the ASCII characters
every one may be a letter. -/
def isNameCharacter (c : Char) : Bool := c.isAlphanum || c == '_' || c == '.' || 128 ≤ c.toNat

/-- Whether a text is the name of a field. -/
def IsName (s : String) : Prop := s ≠ "" ∧ ∀ c ∈ s.toList, isNameCharacter c = true

/-- Whether the fields of a filter have names. -/
def Filter.Named (f : Filter) : Prop := ∀ e ∈ f.entries, IsName e.1

instance (s : String) : Decidable (IsName s) :=
  @instDecidableAnd _ _ inferInstance (List.decidableBAll _ s.toList)

instance (f : Filter) : Decidable f.Named := by unfold Filter.Named; infer_instance

/-- A name holds no delimiters. -/
theorem IsName.hasDelimiter_eq_false {s : String} (h : IsName s) : hasDelimiter s = false := by
  have hdelimiters : (delimiters.any isNameCharacter) = false := by decide
  refine List.any_eq_false.mpr fun c hc hmem => ?_
  exact List.any_eq_false.mp hdelimiters c (List.contains_iff_mem.mp hmem) (h.2 c hc)

/-! ## Warnings -/

/-- Whether a filter is compiled without a warning of a value. -/
def Filter.Silent (f : Filter) : Prop :=
  ∀ field value, Signal.event (.unescapedValue field value) ∉ f.compileSignals

/-- There is no warning of a value exactly when its text holds no delimiters. -/
theorem FilterScalar.warning?_eq_none_iff (field : String) (v : FilterScalar) :
    v.warning? field = none ↔ hasDelimiter v.render = false := by
  have hnumber : (∀ s, v ≠ .text s) → hasDelimiter v.render = false := fun h =>
    (numeric_render v h).hasDelimiter_eq_false
  cases v with
  | text s =>
      rw [warning?, render]
      cases hasDelimiter s <;> simp
  | int n => exact iff_of_true rfl (hnumber nofun)
  | float x => exact iff_of_true rfl (hnumber nofun)
  | bool b => exact iff_of_true rfl (hnumber nofun)

/-- The only warnings are those of values. -/
theorem FilterScalar.eq_unescapedValue {field : String} {v : FilterScalar} {e : Event}
    (h : v.warning? field = some e) : ∃ value, e = .unescapedValue field value := by
  cases v with
  | text s =>
      obtain ⟨-, he⟩ := Option.ite_none_right_eq_some.mp h
      exact ⟨s, (Option.some.inj he).symm⟩
  | _ => exact absurd h (Option.some_ne_none e).symm

/-- A filter is compiled without a warning exactly when no value of it holds a delimiter. -/
theorem Filter.silent_iff (f : Filter) :
    f.Silent ↔ ∀ e ∈ f.entries, ∀ v ∈ e.2.scalars, hasDelimiter v.render = false := by
  constructor
  · intro h e he v hv
    rw [← v.warning?_eq_none_iff e.1, Option.eq_none_iff_forall_ne_some]
    intro event hevent
    obtain ⟨value, rfl⟩ := FilterScalar.eq_unescapedValue hevent
    have hwarning : Event.unescapedValue e.1 value ∈ f.warnings :=
      List.mem_flatMap.mpr ⟨e, he, List.mem_filterMap.mpr ⟨v, hv, hevent⟩⟩
    exact h e.1 value (List.mem_append_left _ (List.mem_map_of_mem hwarning))
  · intro h field value hmem
    have hwarning : Event.unescapedValue field value ∈ f.warnings := by
      simpa [compileSignals] using hmem
    obtain ⟨e, he, hmem⟩ := List.mem_flatMap.mp hwarning
    obtain ⟨v, hv, hevent⟩ := List.mem_filterMap.mp hmem
    rw [(v.warning?_eq_none_iff e.1).mpr (h e he v hv)] at hevent
    exact absurd hevent (Option.some_ne_none _).symm

instance (f : Filter) : Decidable f.Silent := decidable_of_iff _ f.silent_iff.symm

/-- A filter with names that is compiled without a warning holds no delimiters. -/
theorem Filter.Silent.undelimited {f : Filter} (hf : f.Silent) (hnamed : f.Named) :
    f.Undelimited := by
  intro e he
  exact ⟨(hnamed e he).hasDelimiter_eq_false, f.silent_iff.mp hf e he⟩

/-! ## Expressions -/

/-- **Filters that are compiled without a warning have the same expression exactly when their normal
forms are read alike**: with the longest operator that each value completes, and the list of the
empty text as the empty list. When the comparisons of both are read as they are, the normal forms
are the same. -/
theorem expression_eq_iff_of_silent {f g : Filter} (hf : f.Named) (hg : g.Named)
    (hsilent : f.Silent) (hsilent' : g.Silent) :
    (f.expression = g.expression ↔
        f.normalForm.map Clause.asRead = g.normalForm.map Clause.asRead) ∧
      (f.Legible → g.Legible → (f.expression = g.expression ↔ f.normalForm = g.normalForm)) := by
  have hiff := (hsilent.undelimited hf).expression_eq_iff (hsilent'.undelimited hg)
  refine ⟨hiff, fun hlegible hlegible' => ?_⟩
  rw [hiff, hlegible.map_asRead, hlegible'.map_asRead]

/-- Titles with a word that begins with an equals sign. -/
def Filter.signedWord : Filter :=
  Filter.empty.ops "title" (OrderedMap.empty.insert .contains (.one (.text "=shoes")))

/-- The title of that word without the sign. -/
def Filter.wholeTitle : Filter := Filter.empty.eq "title" (.text "shoes")

/-- A legible filter with signs and with an empty text in its values. -/
def Filter.signedValues : Filter :=
  Filter.empty.eq "title" (.text "=shoes") |>.anyOf "size" [.text "", .text ">4"]

/-- The word with the sign is read as the title without it, though neither is warned of. The signs
in the other filter stand where no operator can go on, so that it is told from that title. -/
theorem expression_eq_iff_of_silent_signs :
    Filter.signedWord.Silent ∧ Filter.wholeTitle.Silent ∧ Filter.signedValues.Silent ∧
      Filter.signedWord.expression = Filter.wholeTitle.expression ∧
      Filter.signedValues.expression ≠ Filter.wholeTitle.expression := by
  have hword : Filter.signedWord.Named ∧ Filter.signedWord.Silent := by decide
  have htitle : Filter.wholeTitle.Named ∧ Filter.wholeTitle.Silent := by decide
  have hvalues : Filter.signedValues.Named ∧ Filter.signedValues.Silent := by decide
  obtain ⟨hread, -⟩ := expression_eq_iff_of_silent hword.1 htitle.1 hword.2 htitle.2
  obtain ⟨-, hlegible⟩ := expression_eq_iff_of_silent hvalues.1 htitle.1 hvalues.2 htitle.2
  have hiff := hlegible (by decide) (by decide)
  have hforms : Filter.signedValues.normalForm ≠ Filter.wholeTitle.normalForm := by decide
  exact ⟨hword.2, htitle.2, hvalues.2, hread.mpr (by decide), fun h => hforms (hiff.mp h)⟩

/-- The list of the empty text is written as the empty list is. -/
example : (OperandText.many [""]).text = (OperandText.many []).text := by decide

/-- **Without a warning an expression can still have two meanings**: there are filters with names,
compiled without a warning, that have one expression and do not say the same. -/
theorem exists_silent_ambiguity :
    ¬ ∀ f g : Filter, f.Named → g.Named → f.Silent → g.Silent → f.expression = g.expression →
      f.normalForm = g.normalForm := by
  intro h
  have hforms : Filter.signedWord.normalForm = Filter.wholeTitle.normalForm :=
    h _ _ (by decide) (by decide) (by decide) (by decide) (by decide)
  exact absurd hforms (by decide)

end CollectionSearch
