import CollectionSearch.Proofs.Number.Plain
import CollectionSearch.Proofs.Text.Digits
import CollectionSearch.Proofs.Text.Split
import CollectionSearch.VectorQuery

/-!
# Vector queries read back

The text of a vector query holds a field, the components of a vector and a number. The first colon
ends the field, the first closing bracket after it the components, and commas stand between these.
The text of a number has none of these characters, so that everything can be found again.

* `VectorText` : the parts of such a text; `VectorText.text` puts them together.
* `VectorText.Legible` : whether the parts can be told apart.
* `VectorText.read?` : the parts of a text.

**Main statements:** `read?_text` reads legible parts back, `legible_parts` says that the parts of a
query are legible if its field has no colon, and `text_read_back` puts them together.
-/

namespace CollectionSearch

/-! ## Texts -/

/-- The parts of the text of a vector query. -/
structure VectorText where
  /-- The field. -/
  field : String
  /-- The components, as they are written. -/
  components : List String
  /-- The number of documents that are wanted. -/
  k : Nat
  deriving DecidableEq

namespace VectorText

/-- The text that the parts make. -/
def text (p : VectorText) : String :=
  p.field ++ ":([" ++ ",".intercalate p.components ++ "], k:" ++ toString p.k ++ ")"

/-- Whether the parts can be told apart in the text. -/
structure Legible (p : VectorText) : Prop where
  /-- The field has no colon. -/
  field : ':' ∉ p.field.toList
  /-- A component is there, and has neither a comma nor a bracket. -/
  component : ∀ c ∈ p.components, c ≠ "" ∧ ',' ∉ c.toList ∧ ']' ∉ c.toList

/-- The components that are joined by commas; none in an empty text. -/
def readComponents (joined : String) : List String :=
  if joined = "" then [] else Text.split ',' joined

/-- The parts of a text. -/
def read? (s : String) : Option VectorText :=
  match s.toList.dropWhile fun c => c ≠ ':' with
  | ':' :: '(' :: '[' :: inner =>
    match inner.dropWhile fun c => c ≠ ']' with
    | ']' :: ',' :: ' ' :: 'k' :: ':' :: last =>
      if last.getLast? = some ')' then
        (Text.ofDigits? 10 last.dropLast).map fun k =>
          { field := Text.beforeFirst ':' s
            components := readComponents (Text.beforeFirst ']' (String.ofList inner))
            k := k }
      else none
    | _ => none
  | _ => none

/-! ## Reading back -/

/-- Components that are joined are found again: as many as there were, and none in an empty text. -/
theorem readComponents_intercalate {l : List String}
    (h : ∀ c ∈ l, c ≠ "" ∧ ',' ∉ c.toList ∧ ']' ∉ c.toList) :
    readComponents (",".intercalate l) = l := by
  rcases l with _ | ⟨first, rest⟩
  · rfl
  · have hne : ",".intercalate (first :: rest) ≠ "" := by
      rw [ne_eq, Text.intercalate_cons_eq_empty_iff (by decide)]
      exact fun hempty => (h first List.mem_cons_self).1 hempty.1
    rw [readComponents, if_neg hne]
    exact Text.split_intercalate_of_not_mem rfl (List.cons_ne_nil first rest) fun c hc =>
      (h c hc).2.1

/-- Joined components have no bracket. -/
theorem bracket_not_mem_intercalate {l : List String}
    (h : ∀ c ∈ l, c ≠ "" ∧ ',' ∉ c.toList ∧ ']' ∉ c.toList) :
    ']' ∉ (",".intercalate l).toList := by
  refine Text.intercalate_closed (P := fun s => ']' ∉ s.toList) (by decide) ?_ (by decide)
    fun c hc => (h c hc).2.2
  intro s t hs ht
  rw [String.toList_append, List.mem_append, not_or]
  exact ⟨hs, ht⟩

/-- **Legible parts are read back from their text.** -/
theorem read?_text {p : VectorText} (h : p.Legible) : read? p.text = some p := by
  -- what stands behind the field, and what stands behind the components
  have houter : p.text = p.field ++
      (":([" ++ (",".intercalate p.components ++ ("], k:" ++ toString p.k ++ ")"))) := by
    simp only [text, String.append_assoc]
  have hfield : Text.beforeFirst ':' p.text = p.field := by
    rw [houter]
    exact Text.beforeFirst_append h.field (by simp)
  have hcolon : (p.text.toList.dropWhile fun c => c ≠ ':') = ':' :: '(' :: '[' ::
      (",".intercalate p.components ++ ("], k:" ++ toString p.k ++ ")")).toList := by
    rw [houter, Text.dropWhile_append h.field (by simp), String.toList_append]
    rfl
  have hbracket := bracket_not_mem_intercalate h.component
  have hjoined : Text.beforeFirst ']' (",".intercalate p.components ++
      ("], k:" ++ toString p.k ++ ")")) = ",".intercalate p.components :=
    Text.beforeFirst_append hbracket (by simp)
  have hlast : ((",".intercalate p.components ++
      ("], k:" ++ toString p.k ++ ")")).toList.dropWhile fun c => c ≠ ']') =
      ']' :: ',' :: ' ' :: 'k' :: ':' :: ((toString p.k).toList ++ [')']) := by
    rw [Text.dropWhile_append hbracket (by simp), String.toList_append, String.toList_append]
    rfl
  simp only [read?, hcolon, hlast, String.ofList_toList, hjoined, hfield, List.getLast?_concat,
    List.dropLast_concat, Text.ofDigits?_toString, readComponents_intercalate h.component, if_true,
    Option.map_some]

/-- Legible parts with the same text are the same. -/
theorem Legible.eq_of_text_eq {p p' : VectorText} (h : p.Legible) (h' : p'.Legible)
    (heq : p.text = p'.text) : p = p' := by
  have hread : some p = some p' := by
    rw [← read?_text h, heq, read?_text h']
  exact Option.some.inj hread

end VectorText

/-! ## Queries -/

namespace VectorQuery

/-- The parts of the text of a query. -/
def parts (q : VectorQuery) : VectorText := ⟨q.field, q.vector.map Binary.plainText, q.k.toNat⟩

theorem text_parts (q : VectorQuery) : q.parts.text = q.text := rfl

/-- The parts of a query are legible if its field has no colon. -/
theorem legible_parts {q : VectorQuery} (h : ':' ∉ q.field.toList) : q.parts.Legible where
  field := h
  component := by
    intro c hc
    obtain ⟨x, -, rfl⟩ := List.mem_map.mp hc
    have hnumeric := numeric_plainText x
    have hmarks := hnumeric.not_mem (l := [',', ']']) (by decide)
    exact ⟨hnumeric.1, fun hmem => hmarks ',' hmem (by decide), fun hmem =>
      hmarks ']' hmem (by decide)⟩

/-- Queries have the same parts if they have the same field, number and written components. -/
theorem parts_eq_iff (q q' : VectorQuery) :
    q.parts = q'.parts ↔ q.field = q'.field ∧ q.k = q'.k ∧ q.components = q'.components := by
  rw [parts, parts, VectorText.mk.injEq, UInt64.toNat_inj, components, components,
    and_comm (a := _ = _) (b := q.k = q'.k)]

/-- **The text of a query whose field has no colon is read back**: the field, a text for each
component in order, and the number. No other legible parts have this text, so that two such queries
have the same text exactly if they have the same field, number and written components. -/
theorem text_read_back (q : VectorQuery) (h : ':' ∉ q.field.toList) :
    (VectorText.read? q.text = some ⟨q.field, q.vector.map Binary.plainText, q.k.toNat⟩ ∧
        ∀ x ∈ q.vector, x.plainText ≠ "" ∧ ',' ∉ x.plainText.toList ∧ ']' ∉ x.plainText.toList) ∧
      (∀ p : VectorText, p.Legible → p.text = q.text →
        p = ⟨q.field, q.vector.map Binary.plainText, q.k.toNat⟩) ∧
      ∀ q' : VectorQuery, ':' ∉ q'.field.toList →
        (q.text = q'.text ↔ q.field = q'.field ∧ q.k = q'.k ∧ q.components = q'.components) := by
  have hlegible := legible_parts h
  rw [← q.text_parts]
  refine ⟨⟨VectorText.read?_text hlegible, ?_⟩, ?_, ?_⟩
  · exact fun x hx => hlegible.component _ (List.mem_map_of_mem hx)
  · exact fun p hp heq => hp.eq_of_text_eq hlegible heq
  · intro q' h'
    rw [← q'.text_parts, ← parts_eq_iff]
    exact ⟨fun heq => hlegible.eq_of_text_eq (legible_parts h') heq, congrArg VectorText.text⟩

/-- Numbers that are not finite are read back too, and so is the vector without components, which is
told from the others. -/
theorem text_read_back_embedding :
    let q : VectorQuery := ⟨"embedding", [.notANumber, .infinite true, Binary.ofInt binary32 1], 10⟩
    let bare : VectorQuery := ⟨"embedding", [], 10⟩
    (':' ∉ q.field.toList ∧ q.text = "embedding:([NaN,-inf,1], k:10)" ∧
        VectorText.read? q.text = some ⟨"embedding", ["NaN", "-inf", "1"], 10⟩) ∧
      (':' ∉ bare.field.toList ∧ bare.text = "embedding:([], k:10)" ∧
        VectorText.read? bare.text = some ⟨"embedding", [], 10⟩) ∧
      q.text ≠ bare.text ∧
      ∃ p : VectorText, p.Legible ∧ p.text = q.text ∧
        p = ⟨"embedding", ["NaN", "-inf", "1"], 10⟩ := by
  intro q bare
  have hq : ':' ∉ q.field.toList := by decide
  have hbare : ':' ∉ bare.field.toList := by decide
  obtain ⟨⟨hread, -⟩, hunique, hsame⟩ := text_read_back q hq
  obtain ⟨⟨hread', -⟩, -⟩ := text_read_back bare hbare
  have hwritten : q.vector.map Binary.plainText = ["NaN", "-inf", "1"] := by decide
  rw [hwritten] at hread hunique
  refine ⟨⟨hq, by decide, hread⟩, ⟨hbare, by decide, hread'⟩, fun heq => ?_, ?_⟩
  · have hcomponents : q.components = bare.components := ((hsame bare hbare).mp heq).2.2
    exact absurd hcomponents (by decide)
  · exact ⟨q.parts, legible_parts hq, rfl, hunique q.parts (legible_parts hq) rfl⟩

end VectorQuery

end CollectionSearch
