/-!
# Splitting at a separator

A text cut at every occurrence of one character. There is always one piece more than there are
separators, so the empty text has one empty piece.

* `splitChars`, `split` : the pieces.
* `beforeFirst` : the part in front of the first separator.

**Main statements:** the pieces hold no separator (`not_mem_of_mem_splitChars`), and a text without
one is its own only piece (`splitChars_of_not_mem`).
-/

namespace CollectionSearch.Text

/-- The pieces between the occurrences of a separator. -/
def splitChars (sep : Char) : List Char → List (List Char)
  | [] => [[]]
  | c :: cs =>
    match splitChars sep cs with
    | [] => [[c]]
    | piece :: rest => if c = sep then [] :: piece :: rest else (c :: piece) :: rest

/-- The pieces of a text between the occurrences of a separator. -/
def split (sep : Char) (s : String) : List String := (splitChars sep s.toList).map String.ofList

/-- The part of a text in front of the first separator, the whole text if there is none. -/
def beforeFirst (sep : Char) (s : String) : String :=
  String.ofList (s.toList.takeWhile fun c => c ≠ sep)

@[simp] theorem splitChars_nil (sep : Char) : splitChars sep [] = [[]] := rfl

/-- There is at least one piece. -/
theorem splitChars_ne_nil (sep : Char) : (cs : List Char) → splitChars sep cs ≠ []
  | [] => by simp
  | c :: cs => by
      unfold splitChars
      split
      · simp
      · split <;> simp

/-- A text without the separator is its own only piece. -/
theorem splitChars_of_not_mem {sep : Char} :
    (cs : List Char) → sep ∉ cs → splitChars sep cs = [cs]
  | [], _ => rfl
  | c :: cs, h => by
      have hc : c ≠ sep := fun hc => h (by simp [hc])
      have hcs := splitChars_of_not_mem cs fun hcs => h (List.mem_cons_of_mem _ hcs)
      simp [splitChars, hcs, hc]

/-- The pieces hold no separator. -/
theorem not_mem_of_mem_splitChars {sep : Char} :
    (cs : List Char) → ∀ piece ∈ splitChars sep cs, sep ∉ piece
  | [], piece, h => by
      simp only [splitChars_nil, List.mem_singleton] at h
      simp [h]
  | c :: cs, piece, h => by
      have ih : ∀ p ∈ splitChars sep cs, sep ∉ p := not_mem_of_mem_splitChars cs
      unfold splitChars at h
      split at h
      · rename_i hnil
        exact absurd hnil (splitChars_ne_nil sep cs)
      · rename_i first rest heq
        rw [heq] at ih
        split at h
        · rcases List.mem_cons.mp h with rfl | h
          · simp
          · exact ih piece h
        · rename_i hc
          rcases List.mem_cons.mp h with rfl | h
          · intro hmem
            rcases List.mem_cons.mp hmem with rfl | hmem
            · exact hc rfl
            · exact ih first List.mem_cons_self hmem
          · exact ih piece (List.mem_cons_of_mem _ h)

end CollectionSearch.Text
