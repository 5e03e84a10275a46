import CollectionSearch.Proofs.Expression.Clauses
import CollectionSearch.Proofs.Filter.Locality
import CollectionSearch.Proofs.Filter.Nesting
import Mathlib.Data.List.Forall2

/-!
# What is reported of a filter

The fields that are not declared, the values that would be misread and the number of clauses are
found in three walks over a filter, and its expression in a fourth. The expression is taken apart
into values and what stands between them, so that the walks can be compared.

* `Piece` : a piece of an expression, with `Piece.textOf` and `Piece.occurrences`, the text and the
  values of several.
* `Filter.pieces` : the pieces of the expression of a filter.
* `Filter.occurrences` : the values of a filter with their fields.
* `FilterScalar.Suspect` : whether a value is warned of.
* `Filter.kept` : the entries of which something is said.
* `Report` : what is seen of a signal from outside.

**Main statements:** `textOf_pieces` and `occurrences_pieces` say that the pieces have the text of
the expression and the values of the filter in one order, `forall₂_clauses` that kept entries and
clauses go together, and `compileSignalsFor_reports_expression` what is reported.
-/

namespace CollectionSearch

/-! ## Pieces of an expression -/

/-- A piece of an expression: what stands between values, or a value of a field. -/
inductive Piece where
  | mark (text : String)
  | value (field : String) (v : FilterScalar)

namespace Piece

/-- What is written for a piece. -/
def text : Piece → String
  | mark text => text
  | value _ v => v.render

/-- The field and the value, if the piece is one. -/
def occurrence? : Piece → Option (String × FilterScalar)
  | mark _ => none
  | value field v => some (field, v)

/-- The text of pieces. -/
def textOf (l : List Piece) : String := String.join (l.map text)

/-- The values among pieces. -/
def occurrences (l : List Piece) : List (String × FilterScalar) := l.filterMap occurrence?

/-- Pieces with a mark between each two lists of them. -/
def joined (sep : String) (l : List (List Piece)) : List Piece := [mark sep].intercalate l

@[simp] theorem textOf_nil : textOf [] = "" := rfl

@[simp] theorem textOf_cons (p : Piece) (l : List Piece) :
    textOf (p :: l) = p.text ++ textOf l := String.join_cons

@[simp] theorem textOf_append (l l' : List Piece) : textOf (l ++ l') = textOf l ++ textOf l' := by
  rw [textOf, List.map_append, String.join_append, textOf, textOf]

@[simp] theorem occurrences_mark_cons (s : String) (l : List Piece) :
    occurrences (mark s :: l) = occurrences l := rfl

@[simp] theorem occurrences_append (l l' : List Piece) :
    occurrences (l ++ l') = occurrences l ++ occurrences l' := List.filterMap_append

@[simp] theorem joined_singleton (sep : String) (l : List Piece) : joined sep [l] = l :=
  List.intercalate_singleton

theorem joined_cons_cons (sep : String) (first second : List Piece) (rest : List (List Piece)) :
    joined sep (first :: second :: rest) = first ++ mark sep :: joined sep (second :: rest) := by
  rw [joined, List.intercalate_cons_cons, List.append_assoc]
  rfl

/-- Joined pieces are written as their texts are joined. -/
theorem textOf_joined (sep : String) : (l : List (List Piece)) →
    textOf (joined sep l) = sep.intercalate (l.map textOf)
  | [] => rfl
  | [first] => by simp
  | first :: second :: rest => by
      have ih := textOf_joined sep (second :: rest)
      rw [List.map_cons] at ih
      rw [joined_cons_cons, textOf_append, textOf_cons, ih, List.map_cons, List.map_cons,
        String.intercalate_cons_cons, String.append_assoc]
      rfl

/-- Marks between pieces add no values. -/
theorem occurrences_joined (sep : String) : (l : List (List Piece)) →
    occurrences (joined sep l) = l.flatMap occurrences
  | [] => rfl
  | [first] => by simp
  | first :: second :: rest => by
      rw [joined_cons_cons, occurrences_append, occurrences_mark_cons,
        occurrences_joined sep (second :: rest), List.flatMap_cons (x := first)]

end Piece

open Piece

section pieces

variable (field : String)

/-- The pieces of a list of values. -/
def FilterScalar.listPieces (values : List FilterScalar) : List Piece :=
  mark "[" :: (joined "," (values.map fun v => [value field v]) ++ [mark "]"])

/-- The pieces of what a comparison compares with. -/
def Operand.pieces : Operand → List Piece
  | one v => [value field v]
  | many values => FilterScalar.listPieces field values

/-- The pieces of the comparisons of a map. -/
def OperatorMap.pieces (map : OperatorMap) : List (List Piece) :=
  map.entries.map fun e => mark (field ++ e.1.token) :: e.2.pieces field

/-- The pieces of what must hold together. -/
def Piece.conjunction : List (List Piece) → List Piece
  | [atom] => atom
  | atoms => mark "(" :: (joined " && " atoms ++ [mark ")"])

/-- The pieces of the groups of alternatives. -/
def OperatorMap.groupPieces (maps : List OperatorMap) : List (List (List Piece)) :=
  (maps.map (OperatorMap.pieces field)).filter fun atoms => !atoms.isEmpty

/-- The pieces of the clause of a field, if something is said of it. -/
def Predicate.pieces? : Predicate → Option (List Piece)
  | null => none
  | scalar v => some [mark (field ++ ":="), value field v]
  | anyOf values =>
    if values.isEmpty then none
    else some (mark (field ++ ":=") :: FilterScalar.listPieces field values)
  | ops map =>
    let atoms := OperatorMap.pieces field map
    if atoms.isEmpty then none else some (Piece.conjunction atoms)
  | anyOps maps =>
    let groups := OperatorMap.groupPieces field maps
    if groups.isEmpty then none
    else some (mark "(" :: (joined " || " (groups.map Piece.conjunction) ++ [mark ")"]))

end pieces

/-- The pieces of the expression of a filter, in order. -/
def Filter.pieces (f : Filter) : List Piece :=
  joined " && " (f.entries.filterMap fun e => e.2.pieces? e.1)

/-! ## Their text -/

section text

variable (field : String)

theorem FilterScalar.textOf_listPieces (values : List FilterScalar) :
    textOf (listPieces field values) = renderList values := by
  have htexts : (values.map fun v => [value field v]).map textOf = values.map render := by
    rw [List.map_map]
    exact List.map_congr_left fun v _ => by simp [Piece.text]
  rw [listPieces, textOf_cons, textOf_append, textOf_joined, htexts, renderList,
    String.append_assoc]
  simp [Piece.text]

theorem Operand.textOf_pieces (o : Operand) : textOf (o.pieces field) = o.render := by
  cases o with
  | one v => simp [pieces, render, Piece.text]
  | many values => exact FilterScalar.textOf_listPieces field values

theorem OperatorMap.map_textOf_pieces (map : OperatorMap) :
    (OperatorMap.pieces field map).map textOf = OperatorMap.atoms field map := by
  unfold OperatorMap.pieces OperatorMap.atoms
  rw [List.map_map]
  exact List.map_congr_left fun e _ => by
    rw [Function.comp_apply, textOf_cons, e.2.textOf_pieces, Piece.text]

theorem Piece.textOf_conjunction (atoms : List (List Piece)) :
    textOf (Piece.conjunction atoms) = CollectionSearch.conjunction (atoms.map textOf) := by
  rcases atoms with _ | ⟨first, _ | ⟨second, rest⟩⟩
  · decide
  · rfl
  · rw [Piece.conjunction, textOf_cons, textOf_append, textOf_joined]
    · simp [CollectionSearch.conjunction, Piece.text, String.append_assoc]
    · nofun

theorem OperatorMap.map_textOf_groupPieces (maps : List OperatorMap) :
    (OperatorMap.groupPieces field maps).map (List.map textOf) = OperatorMap.groups field maps := by
  have hatoms : List.map textOf ∘ OperatorMap.pieces field = OperatorMap.atoms field :=
    funext fun map => OperatorMap.map_textOf_pieces field map
  unfold OperatorMap.groupPieces OperatorMap.groups
  rw [← hatoms, ← List.map_map, List.filter_map (f := List.map textOf)]
  refine congrArg _ (List.filter_congr fun atoms _ => ?_)
  rw [Function.comp_apply, List.isEmpty_map]

/-- The pieces of a clause are written as the clause is. -/
theorem Predicate.map_textOf_pieces? (p : Predicate) :
    (p.pieces? field).map textOf = p.clause? field := by
  cases p with
  | null => rfl
  | scalar v => simp [pieces?, clause?, Piece.text]
  | anyOf values =>
      rw [pieces?, clause?]
      split
      · rfl
      · rw [Option.map_some, textOf_cons, FilterScalar.textOf_listPieces, Piece.text]
  | ops map =>
      simp only [pieces?, clause?, ← OperatorMap.map_textOf_pieces, List.isEmpty_map]
      split
      · rfl
      · rw [Option.map_some, Piece.textOf_conjunction]
  | anyOps maps =>
      have hgroups : textOf ∘ Piece.conjunction = CollectionSearch.conjunction ∘ List.map textOf :=
        funext Piece.textOf_conjunction
      simp only [pieces?, clause?, ← OperatorMap.map_textOf_groupPieces, List.isEmpty_map]
      split
      · rfl
      · rw [Option.map_some, textOf_cons, textOf_append, textOf_joined, List.map_map, hgroups,
          List.map_map]
        simp [Piece.text, String.append_assoc]

end text

/-- **The pieces of a filter are written as its expression is.** -/
theorem Filter.textOf_pieces (f : Filter) : textOf f.pieces = f.expression := by
  rw [pieces, textOf_joined, List.map_filterMap, expression, clauses]
  exact congrArg _ (List.filterMap_congr fun e _ => e.2.map_textOf_pieces? e.1)

/-! ## Their values -/

section occurrences

variable (field : String)

theorem FilterScalar.occurrences_listPieces (values : List FilterScalar) :
    occurrences (listPieces field values) = values.map (Prod.mk field) := by
  rw [listPieces, occurrences_mark_cons, occurrences_append, occurrences_joined, List.flatMap_map]
  simp [occurrences, occurrence?, List.map_eq_flatMap]

theorem Operand.occurrences_pieces (o : Operand) :
    occurrences (o.pieces field) = o.scalars.map (Prod.mk field) := by
  cases o with
  | one v => rfl
  | many values => exact FilterScalar.occurrences_listPieces field values

theorem OperatorMap.flatMap_occurrences_pieces (map : OperatorMap) :
    (OperatorMap.pieces field map).flatMap occurrences =
      (OperatorMap.scalars map).map (Prod.mk field) := by
  unfold OperatorMap.pieces OperatorMap.scalars
  rw [List.flatMap_map, List.map_flatMap]
  exact List.flatMap_congr fun e _ => e.2.occurrences_pieces field

theorem Piece.occurrences_conjunction (atoms : List (List Piece)) :
    occurrences (Piece.conjunction atoms) = atoms.flatMap occurrences := by
  rcases atoms with _ | ⟨first, _ | ⟨second, rest⟩⟩
  · rfl
  · exact (List.append_nil _).symm
  · rw [Piece.conjunction, occurrences_mark_cons, occurrences_append, occurrences_joined]
    · exact List.append_nil _
    · nofun

theorem OperatorMap.occurrences_groupPieces (maps : List OperatorMap) :
    (OperatorMap.groupPieces field maps).flatMap (List.flatMap occurrences) =
      (maps.flatMap OperatorMap.scalars).map (Prod.mk field) := by
  unfold OperatorMap.groupPieces
  induction maps with
  | nil => rfl
  | cons map rest ih =>
      -- a map without comparisons has no values
      rw [List.map_cons, List.filter_cons, List.flatMap_cons, List.map_append, ← ih,
        ← OperatorMap.flatMap_occurrences_pieces]
      rcases OperatorMap.pieces field map with _ | ⟨atom, atoms⟩ <;> rfl

/-- The pieces of a clause have the values of the predicate, in order. -/
theorem Predicate.occurrences_pieces? (p : Predicate) :
    occurrences ((p.pieces? field).getD []) = p.scalars.map (Prod.mk field) := by
  cases p with
  | null => rfl
  | scalar v => rfl
  | anyOf values =>
      rcases values with _ | ⟨v, rest⟩
      · rfl
      · exact FilterScalar.occurrences_listPieces field (v :: rest)
  | ops map =>
      rw [scalars, ← OperatorMap.flatMap_occurrences_pieces, ← Piece.occurrences_conjunction]
      simp only [pieces?]
      rcases OperatorMap.pieces field map with _ | ⟨atom, atoms⟩ <;> rfl
  | anyOps maps =>
      have hgroups : (fun atoms => occurrences (Piece.conjunction atoms)) =
          List.flatMap occurrences := funext Piece.occurrences_conjunction
      rw [scalars, ← OperatorMap.occurrences_groupPieces]
      simp only [pieces?]
      rcases OperatorMap.groupPieces field maps with _ | ⟨group, groups⟩
      · rfl
      · rw [List.isEmpty_cons, if_neg Bool.false_ne_true, Option.getD_some, occurrences_mark_cons,
          occurrences_append, occurrences_joined, List.flatMap_map, hgroups]
        exact List.append_nil _

end occurrences

/-- The values of a filter with their fields, in order. -/
def Filter.occurrences (f : Filter) : List (String × FilterScalar) :=
  f.entries.flatMap fun e => e.2.scalars.map (Prod.mk e.1)

/-- **The values among the pieces of a filter are its values, in order.** -/
theorem Filter.occurrences_pieces (f : Filter) : Piece.occurrences f.pieces = f.occurrences := by
  rw [pieces, occurrences_joined, Filter.occurrences]
  induction f.entries with
  | nil => rfl
  | cons e rest ih =>
      rw [List.flatMap_cons, ← ih, ← e.2.occurrences_pieces? e.1, List.filterMap_cons]
      rcases e.2.pieces? e.1 with _ | l <;> rfl

/-! ## Values that are warned of -/

/-- Whether a value is a text that has a delimiter. -/
def FilterScalar.Suspect (v : FilterScalar) : Prop :=
  ∃ s, v = .text s ∧ ∃ c ∈ s.toList, c ∈ delimiters

theorem FilterScalar.suspect_text_iff (s : String) :
    (text s).Suspect ↔ hasDelimiter s = true := by
  rw [hasDelimiter, List.any_eq_true]
  simp only [List.contains_iff_mem]
  constructor
  · rintro ⟨_, ⟨⟩, h⟩
    exact h
  · exact fun h => ⟨s, rfl, h⟩

instance : (v : FilterScalar) → Decidable v.Suspect
  | .text s => decidable_of_iff _ (FilterScalar.suspect_text_iff s).symm
  | .int _ => isFalse nofun
  | .float _ => isFalse nofun
  | .bool _ => isFalse nofun

/-- Of such a value a warning is given, and of no other. -/
theorem FilterScalar.warning?_eq (field : String) (v : FilterScalar) :
    v.warning? field = if v.Suspect then some (.unescapedValue field v.render) else none := by
  cases v with
  | text s =>
      simp only [warning?, suspect_text_iff]
      rfl
  | _ => rfl

theorem FilterScalar.filterMap_warning? (field : String) (values : List FilterScalar) :
    values.filterMap (FilterScalar.warning? field) =
      ((values.map (Prod.mk field)).filter fun o => o.2.Suspect).map fun o =>
        .unescapedValue o.1 o.2.render := by
  induction values with
  | nil => rfl
  | cons v rest ih =>
      rw [List.filterMap_cons, warning?_eq, List.map_cons]
      by_cases hv : v.Suspect
      · rw [if_pos hv, List.filter_cons_of_pos (by simpa using hv), List.map_cons, ih]
      · rw [if_neg hv, List.filter_cons_of_neg (by simpa using hv), ih]

/-- The warnings are those of the values of a filter, in order. -/
theorem Filter.warnings_eq (f : Filter) :
    f.warnings = (f.occurrences.filter fun o => o.2.Suspect).map fun o =>
      .unescapedValue o.1 o.2.render := by
  rw [warnings, Filter.occurrences, List.filter_flatMap, List.map_flatMap]
  exact List.flatMap_congr fun e _ => FilterScalar.filterMap_warning? e.1 e.2.scalars

/-! ## Entries that are kept -/

/-- The entries of which something is said. -/
def Filter.kept (f : Filter) : List (String × Predicate) := f.entries.filter fun e => !e.2.isDropped

/-- Each of them has a clause, in order, and the others have none. -/
theorem Filter.forall₂_clauses (f : Filter) :
    List.Forall₂ (fun e c => e.2.clause? e.1 = some c) f.kept f.clauses := by
  unfold kept clauses
  induction f.entries with
  | nil => exact .nil
  | cons e rest ih =>
      rcases hc : e.2.clause? e.1 with _ | c
      · have hd : e.2.isDropped = true := (e.2.clause?_eq_none_iff e.1).mp hc
        rw [List.filter_cons_of_neg (by simp [hd]), List.filterMap_cons, hc]
        exact ih
      · have hd : e.2.isDropped = false := by
          rw [← Bool.not_eq_true, ← e.2.clause?_eq_none_iff e.1, hc]
          exact Option.some_ne_none c
        rw [List.filter_cons_of_pos (by simp [hd]), List.filterMap_cons, hc]
        exact .cons hc ih

/-- The fields that are reported as undeclared are those of kept entries. -/
theorem Filter.undeclared_eq (f : Filter) (s : CollectionSchema) :
    f.undeclared s = (f.kept.filter fun e => e.1 ∉ s.fields.keys).map Prod.fst := by
  rw [undeclared, kept, List.filter_filter]
  refine congrArg _ (List.filter_congr fun e _ => ?_)
  have hdeclares : s.declares e.1 = decide (e.1 ∈ s.fields.keys) := by
    rw [Bool.eq_iff_iff, decide_eq_true_eq]
    exact s.fields.isSome_get?_iff e.1
  rw [hdeclares, ← decide_not, Bool.and_comm]

/-- The signals in terms of kept entries, values and the expression. -/
theorem Filter.compileSignalsFor_eq (f : Filter) (s : CollectionSchema) :
    f.compileSignalsFor s =
      ((f.kept.filter fun e => e.1 ∉ s.fields.keys).map fun e =>
        .event (.undeclaredField s.name e.1)) ++
      ((f.occurrences.filter fun o => o.2.Suspect).map fun o =>
        .event (.unescapedValue o.1 o.2.render)) ++
      [.sample (.filterCompiled (f.expression = "")), .sample (.filterClauses f.kept.length)] := by
  have hempty : f.clauses.isEmpty = decide (f.expression = "") := by
    rw [Bool.eq_iff_iff, List.isEmpty_iff, decide_eq_true_eq, f.expression_eq_empty_iff_clauses]
  rw [compileSignalsFor, compileSignals, f.undeclared_eq, f.warnings_eq, hempty,
    f.forall₂_clauses.length_eq, List.map_map, List.map_map, ← List.append_assoc]
  rfl

/-- The clauses of a nested filter can be told from its expression alone. -/
theorem Filter.Nested.topClauses_expression {f : Filter} (hf : f.Nested) :
    Expression.topClauses f.expression = f.clauses := by
  refine Expression.topClauses_intercalate fun c hc => ?_
  rw [f.clauses_eq_map_text] at hc
  obtain ⟨k, hk, rfl⟩ := List.mem_map.mp hc
  rw [Expression.Term.text, String.toList_ofList]
  exact (k.term.isOperand_chars (hf.isCell hk)).1

/-! ## What is seen of signals -/

/-- A line of a log, or what an exporter is given. -/
inductive Report where
  | log (level : Level) (message : String) (fields : List (String × String))
  | metric (m : Metric)
  deriving DecidableEq

/-- What is seen of a signal from outside. -/
def Signal.report : Signal → Report
  | event e => .log e.level e.message e.fields
  | sample s => .metric s.metric

/-- **What is reported of a filter is what its expression has.** First the fields of kept entries
that the schema does not declare; then the values that are texts with a delimiter, in the order in
which they stand in the expression; then whether the expression is empty, and how many entries are
kept. The second part says so in the messages, names and labels that are seen from outside. The
expression has one clause for each kept entry, which can be told from its text if the parentheses
in fields and values are balanced and no connective is in them. -/
theorem compileSignalsFor_reports_expression (f : Filter) (s : CollectionSchema) :
    f.compileSignalsFor s =
        ((f.kept.filter fun e => e.1 ∉ s.fields.keys).map fun e =>
          .event (.undeclaredField s.name e.1)) ++
        ((f.occurrences.filter fun o => o.2.Suspect).map fun o =>
          .event (.unescapedValue o.1 o.2.render)) ++
        [.sample (.filterCompiled (f.expression = "")), .sample (.filterClauses f.kept.length)] ∧
      (f.compileSignalsFor s).map Signal.report =
        ((f.kept.filter fun e => e.1 ∉ s.fields.keys).map fun e =>
          .log .debug "Filtering on undeclared field" [("collection", s.name), ("field", e.1)]) ++
        ((f.occurrences.filter fun o => o.2.Suspect).map fun o =>
          .log .warn "Filter value contains a delimiter character and is not escaped"
            [("field", o.1), ("value", o.2.render)]) ++
        [.metric ⟨true, "typesense_criteria_filters_compiled_total",
            [("outcome", if f.expression = "" then "empty" else "compiled")], some 1⟩,
          .metric ⟨false, "typesense_criteria_filter_clauses", [], some f.kept.length⟩] ∧
      (Piece.textOf f.pieces = f.expression ∧ Piece.occurrences f.pieces = f.occurrences) ∧
      (f.expression = " && ".intercalate f.clauses ∧
        List.Forall₂ (fun e c => e.2.clause? e.1 = some c) f.kept f.clauses ∧
        f.clauses.length = f.kept.length) ∧
      (f.Nested → (Expression.topClauses f.expression).length = f.kept.length) := by
  have hclauses := f.forall₂_clauses
  have hlength : f.clauses.length = f.kept.length := hclauses.length_eq.symm
  have hsignals := f.compileSignalsFor_eq s
  refine ⟨hsignals, ?_, ⟨f.textOf_pieces, f.occurrences_pieces⟩, ⟨rfl, hclauses, hlength⟩,
    fun hf => ?_⟩
  · rw [hsignals, List.map_append, List.map_append, List.map_map, List.map_map]
    simp only [List.map_cons, List.map_nil, Signal.report, Sample.metric, decide_eq_true_eq]
    rfl
  · rw [hf.topClauses_expression, hlength]

/-- Of the sample with parentheses two fields are reported, and three texts of five; neither the
field that is dropped is, nor the number. -/
theorem compileSignalsFor_reports_expression_parenthesised :
    let s := (CollectionDraft.string { name := "products" } "call").schema (by decide)
    Filter.parenthesised.Nested ∧
      Filter.parenthesised.compileSignalsFor s =
        [.event (.undeclaredField "products" "size (cm)"), .event (.undeclaredField "products" ""),
          .event (.unescapedValue "call" "f()"), .event (.unescapedValue "call" "(x)"),
          .event (.unescapedValue "" "(a(b))"), .sample (.filterCompiled false),
          .sample (.filterClauses 3)] ∧
      (Filter.parenthesised.compileSignalsFor s).map Signal.report =
        [.log .debug "Filtering on undeclared field"
            [("collection", "products"), ("field", "size (cm)")],
          .log .debug "Filtering on undeclared field" [("collection", "products"), ("field", "")],
          .log .warn "Filter value contains a delimiter character and is not escaped"
            [("field", "call"), ("value", "f()")],
          .log .warn "Filter value contains a delimiter character and is not escaped"
            [("field", "call"), ("value", "(x)")],
          .log .warn "Filter value contains a delimiter character and is not escaped"
            [("field", ""), ("value", "(a(b))")],
          .metric ⟨true, "typesense_criteria_filters_compiled_total", [("outcome", "compiled")],
            some 1⟩,
          .metric ⟨false, "typesense_criteria_filter_clauses", [], some 3⟩] ∧
      (Expression.topClauses Filter.parenthesised.expression).length = 3 := by
  intro s
  have hnested : Filter.parenthesised.Nested := by decide
  obtain ⟨hsignals, hreports, -, -, hread⟩ :=
    compileSignalsFor_reports_expression Filter.parenthesised s
  exact ⟨hnested, hsignals.trans (by decide), hreports.trans (by decide), hread hnested⟩

end CollectionSearch
