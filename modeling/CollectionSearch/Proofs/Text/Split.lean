import CollectionSearch.Text.Split
import Mathlib.Data.List.TakeWhile

/-!
# Cutting what was joined

Cutting at a separator is the splitting of lists of the standard library, so that its laws apply.

* `splitChars_eq_splitOn` : the two agree.
* `beforeFirst_append`, `dropWhile_append` : the part in front of the first separator and the part
  from there on.

**Main statements:** `split_intercalate` cuts joined texts into the pieces of each of them, and
`split_intercalate_of_not_mem` gives back the texts themselves when they hold no separator.
-/

namespace CollectionSearch.Text

/-- Cutting at a separator is what the standard library calls splitting. -/
theorem splitChars_eq_splitOn (sep : Char) (cs : List Char) :
    splitChars sep cs = cs.splitOn sep := by
  induction cs with
  | nil => rfl
  | cons c cs ih =>
      obtain ⟨piece, rest, h⟩ := List.exists_cons_of_ne_nil (splitChars_ne_nil sep cs)
      rw [List.splitOn_cons_eq_if_modifyHead, ← ih, splitChars, h]
      by_cases hc : c = sep <;> simp [hc]

/-- The first piece is what stands before the first separator. -/
theorem head?_splitChars (sep : Char) :
    (cs : List Char) → (splitChars sep cs).head? = some (cs.takeWhile fun c => decide (c ≠ sep))
  | [] => rfl
  | c :: cs => by
      have ih := head?_splitChars sep cs
      unfold splitChars
      rcases h : splitChars sep cs with _ | ⟨piece, rest⟩
      · exact absurd h (splitChars_ne_nil sep cs)
      · rw [h, List.head?_cons, Option.some.injEq] at ih
        by_cases hc : c = sep <;> simp [hc, ih]

/-- A text begins with the piece before the first separator. -/
theorem split_eq_cons (sep : Char) (s : String) :
    split sep s = beforeFirst sep s :: (split sep s).tail := by
  obtain ⟨rest, hrest⟩ := List.head?_eq_some_iff.mp (head?_splitChars sep s.toList)
  rw [split, hrest]
  rfl

/-- Joined lists are cut into the pieces of each of them. -/
theorem splitChars_intercalate (sep : Char) (first : List Char) (others : List (List Char)) :
    splitChars sep ([sep].intercalate (first :: others)) =
      (first :: others).flatMap (splitChars sep) := by
  induction others generalizing first with
  | nil => simp
  | cons second rest ih =>
      rw [List.intercalate_cons_cons, List.append_assoc, List.singleton_append,
        splitChars_eq_splitOn, List.splitOn_append_cons_self, ← splitChars_eq_splitOn,
        ← splitChars_eq_splitOn, ih second, List.flatMap_cons (x := first)]

/-- The pieces of a text hold no separator. -/
theorem not_mem_of_mem_split {sep : Char} {s piece : String} (h : piece ∈ split sep s) :
    sep ∉ piece.toList := by
  obtain ⟨cs, hcs, rfl⟩ := List.mem_map.mp h
  rw [String.toList_ofList]
  exact not_mem_of_mem_splitChars s.toList cs hcs

/-- Joined texts are cut into the pieces of each of them. -/
theorem split_intercalate {sep : Char} {s : String} (hs : s.toList = [sep]) {l : List String}
    (hl : l ≠ []) : split sep (s.intercalate l) = l.flatMap (split sep) := by
  obtain ⟨first, others, rfl⟩ := List.exists_cons_of_ne_nil hl
  rw [split, String.toList_intercalate, hs, List.map_cons, splitChars_intercalate,
    ← List.map_cons, List.flatMap_map, List.map_flatMap]
  rfl

/-- A text without a separator is its own only piece. -/
theorem split_of_not_mem {sep : Char} {s : String} (h : sep ∉ s.toList) : split sep s = [s] := by
  rw [split, splitChars_of_not_mem s.toList h, List.map_singleton, String.ofList_toList]

/-- Joined texts that hold no separator are given back. -/
theorem split_intercalate_of_not_mem {sep : Char} {s : String} (hs : s.toList = [sep])
    {l : List String} (hl : l ≠ []) (h : ∀ t ∈ l, sep ∉ t.toList) :
    split sep (s.intercalate l) = l := by
  have hpieces : ∀ cs ∈ l.map String.toList, sep ∉ cs := by
    intro cs hcs
    obtain ⟨t, ht, rfl⟩ := List.mem_map.mp hcs
    exact h t ht
  have hne : l.map String.toList ≠ [] := fun hnil => hl (List.map_eq_nil_iff.mp hnil)
  rw [split, String.toList_intercalate, hs, splitChars_eq_splitOn,
    List.splitOn_intercalate sep hpieces hne, List.map_map]
  exact (List.map_congr_left fun t _ => String.ofList_toList).trans (List.map_id l)

/-- What appending keeps holds for joined texts when it holds for each of them and what stands
between them. -/
theorem intercalate_closed {P : String → Prop} (hempty : P "")
    (happend : ∀ {s t : String}, P s → P t → P (s ++ t)) {sep : String} (hsep : P sep) :
    {l : List String} → (∀ s ∈ l, P s) → P (sep.intercalate l)
  | [], _ => hempty
  | [s], h => by
      rw [String.intercalate_singleton]
      exact h s List.mem_cons_self
  | s :: t :: rest, h => by
      have hrest : P (sep.intercalate (t :: rest)) :=
        intercalate_closed hempty happend hsep fun u hu => h u (List.mem_cons_of_mem s hu)
      rw [String.intercalate_cons_cons]
      exact happend (happend (h s List.mem_cons_self) hsep) hrest

/-- Joined texts are empty when there is one only and it is empty. -/
theorem intercalate_cons_eq_empty_iff {s first : String} (hs : s ≠ "") {others : List String} :
    s.intercalate (first :: others) = "" ↔ first = "" ∧ others = [] := by
  rcases others with _ | ⟨second, rest⟩
  · rw [String.intercalate_singleton]
    exact (and_iff_left rfl).symm
  · rw [String.intercalate_cons_cons, String.append_eq_empty_iff, String.append_eq_empty_iff]
    exact iff_of_false (fun h => hs h.1.2) (fun h => List.cons_ne_nil second rest h.2)

/-- A text that is not empty has characters. -/
theorem isEmpty_toList_eq_false {s : String} (h : s ≠ "") : s.toList.isEmpty = false := by
  rw [List.isEmpty_eq_false_iff]
  exact fun hnil => h (String.toList_eq_nil_iff.mp hnil)

/-- What stands before the first separator ends where the separator comes. -/
theorem beforeFirst_append {sep : Char} {s t : String} (hs : sep ∉ s.toList)
    (ht : t.toList.head? = some sep) : beforeFirst sep (s ++ t) = s := by
  obtain ⟨cs, hcs⟩ := List.head?_eq_some_iff.mp ht
  have hpos : ∀ c ∈ s.toList, decide (c ≠ sep) = true := fun c hc =>
    decide_eq_true fun h => hs (h ▸ hc)
  rw [beforeFirst, String.toList_append, List.takeWhile_append_of_pos hpos, hcs]
  simp [String.ofList_toList]

/-- A text without a separator stands in front of it as a whole. -/
theorem beforeFirst_of_not_mem {sep : Char} {s : String} (h : sep ∉ s.toList) :
    beforeFirst sep s = s := by
  have hall : ∀ c ∈ s.toList, decide (c ≠ sep) = true := fun c hc =>
    decide_eq_true fun heq => h (heq ▸ hc)
  rw [beforeFirst, List.takeWhile_eq_self_iff.mpr hall, String.ofList_toList]

/-- It does not matter at which of two separators a text is cut off first. -/
theorem beforeFirst_comm (a b : Char) (s : String) :
    beforeFirst a (beforeFirst b s) = beforeFirst b (beforeFirst a s) := by
  unfold beforeFirst
  rw [String.toList_ofList, String.toList_ofList, List.takeWhile_takeWhile,
    List.takeWhile_takeWhile]
  simp only [and_comm]

/-- What stands before the first separator is the beginning of the text. -/
theorem toList_beforeFirst_prefix (sep : Char) (s : String) :
    (beforeFirst sep s).toList <+: s.toList := by
  rw [beforeFirst, String.toList_ofList]
  exact List.takeWhile_prefix _

/-- What is left after that begins with the separator. -/
theorem dropWhile_append {sep : Char} {s t : String} (hs : sep ∉ s.toList)
    (ht : t.toList.head? = some sep) :
    (s ++ t).toList.dropWhile (fun c => decide (c ≠ sep)) = t.toList := by
  obtain ⟨cs, hcs⟩ := List.head?_eq_some_iff.mp ht
  have hpos : ∀ c ∈ s.toList, decide (c ≠ sep) = true := fun c hc =>
    decide_eq_true fun h => hs (h ▸ hc)
  rw [String.toList_append, List.dropWhile_append_of_pos hpos, hcs]
  simp

end CollectionSearch.Text
