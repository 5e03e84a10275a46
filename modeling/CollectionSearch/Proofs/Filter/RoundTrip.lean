import CollectionSearch.Proofs.Filter.Decoder

/-!
# Filters that can be read back

The filters whose expressions say no more and no less than they do: no field and no value holds a
delimiter, no text value is empty, and none begins like the end of an operator.

* `PlainText`, `Filter.Plain` : the texts and filters that can be read back.

**Main statements:** `readClauses_expression` says that the expression of a plain filter is read
back as its normal form, so that two plain filters have one expression only if they say the same.
-/

namespace CollectionSearch

/-! ## Plain filters -/

/-- Whether a text value can be read back: it is not empty, holds no delimiter and does not begin
like the end of an operator. -/
def PlainText (s : String) : Prop :=
  s ≠ "" ∧ hasDelimiter s = false ∧ ∀ c ∈ s.toList.head?, c ∉ operatorCharacters

/-- Whether a value can be read back. Numbers and truth values always can. -/
def FilterScalar.Plain : FilterScalar → Prop
  | text s => PlainText s
  | _ => True

/-- Whether the fields and the values of a filter can be read back. -/
def Filter.Plain (f : Filter) : Prop :=
  ∀ e ∈ f.entries, hasDelimiter e.1 = false ∧ ∀ v ∈ e.2.scalars, v.Plain

instance (s : String) : Decidable (PlainText s) :=
  @instDecidableAnd _ _ inferInstance
    (@instDecidableAnd _ _ inferInstance (Option.decidableForallMem s.toList.head?))

instance : (v : FilterScalar) → Decidable v.Plain
  | .text s => inferInstanceAs (Decidable (PlainText s))
  | .int _ => isTrue trivial
  | .float _ => isTrue trivial
  | .bool _ => isTrue trivial

instance (f : Filter) : Decidable f.Plain := by unfold Filter.Plain; infer_instance

/-- The text of a number is plain. -/
theorem Numeric.plainText {s : String} (h : Numeric s) : PlainText s := by
  refine ⟨h.1, h.hasDelimiter_eq_false, ?_⟩
  exact fun c hc => h.not_mem (by decide) c (List.mem_of_mem_head? hc)

/-- The text of a plain value is plain. -/
theorem FilterScalar.plainText_render : (v : FilterScalar) → v.Plain → PlainText v.render
  | .text _, h => h
  | .int n, _ => (numeric_render (.int n) nofun).plainText
  | .float x, _ => (numeric_render (.float x) nofun).plainText
  | .bool b, _ => (numeric_render (.bool b) nofun).plainText

/-- A plain filter holds no delimiters. -/
theorem Filter.Plain.undelimited {f : Filter} (h : f.Plain) : f.Undelimited := by
  intro e he
  refine ⟨(h e he).1, fun v hv => ?_⟩
  exact (v.plainText_render ((h e he).2 v hv)).2.1

/-! ## Comparisons with plain values -/

/-- A comparison with plain values is read as it is. -/
theorem Comparison.asRead_of_plain {a : Comparison} (h : ∀ s ∈ a.operand.values, PlainText s) :
    a.asRead = a := by
  rcases a with ⟨op, value | values⟩
  · have hvalue : PlainText value := h value List.mem_cons_self
    unfold asRead
    simp only [op.asRead_of_not_mem hvalue.2.2, String.ofList_toList]
  · have hvalues : values ≠ [""] := by
      rintro rfl
      exact (h "" List.mem_cons_self).1 rfl
    unfold asRead OperandText.asRead
    simp only [if_neg hvalues]

/-- The comparisons of a plain filter are read as they are. -/
theorem Filter.Plain.legible {f : Filter} (hf : f.Plain) : f.Legible := by
  intro k hk a ha
  refine Comparison.asRead_of_plain fun s hs => ?_
  obtain ⟨e, he, -, v, hv, rfl⟩ := Filter.exists_scalar hk ha hs
  exact v.plainText_render ((hf e he).2 v hv)

/-- The expression of a plain filter is read back as its normal form. -/
theorem Filter.Plain.read_expression {f : Filter} (hf : f.Plain) :
    readClauses f.expression = some f.normalForm := by
  rw [hf.undelimited.read_expression, hf.legible.map_asRead]

/-- **The expression of a plain filter is read back as its normal form**, which is about the fields
of which something is said, in order. Two plain filters have the same expression exactly when their
normal forms are equal. -/
theorem readClauses_expression {f : Filter} (hf : f.Plain) :
    readClauses f.expression = some f.normalForm ∧
      f.normalForm.map Clause.field =
        (f.entries.filter fun e => !e.2.isDropped).map Prod.fst ∧
      ∀ g : Filter, g.Plain → (f.expression = g.expression ↔ f.normalForm = g.normalForm) := by
  refine ⟨hf.read_expression, f.map_field_normalForm, ?_⟩
  intro g hg
  refine ⟨?_, ?_⟩
  · intro h
    have hread : some f.normalForm = some g.normalForm := by
      rw [← hf.read_expression, ← hg.read_expression, h]
    exact Option.some.inj hread
  · intro h
    rw [Filter.expression, Filter.expression, f.clauses_eq_map_text, g.clauses_eq_map_text, h]

/-- The sample filter is plain, and read back with its groups as they are. Without its first clause
it has another expression. -/
theorem readClauses_expression_sample :
    Filter.sample.Plain ∧
      readClauses Filter.sample.expression = some
        [⟨"title", .all ⟨⟨.eq, .one "red shoes"⟩, []⟩⟩,
          ⟨"size", .all ⟨⟨.eq, .many ["42", "XL"]⟩, []⟩⟩,
          ⟨"price", .all ⟨⟨.gte, .one "10"⟩, [⟨.lt, .one "50"⟩]⟩⟩,
          ⟨"rating", .any ⟨⟨.gt, .one "4"⟩, []⟩
            [⟨⟨.contains, .one "very good"⟩, [⟨.neq, .many ["new", "poor"]⟩]⟩]⟩] ∧
      Filter.sample.expression ≠ (Filter.sample.null "title").expression := by
  have hplain : Filter.sample.Plain := by decide
  have hother : (Filter.sample.null "title").Plain := by decide
  have hforms : Filter.sample.normalForm ≠ (Filter.sample.null "title").normalForm := by decide
  obtain ⟨hread, -, hiff⟩ := readClauses_expression hplain
  exact ⟨hplain, hread.trans (by decide), fun h => hforms ((hiff _ hother).mp h)⟩

end CollectionSearch
