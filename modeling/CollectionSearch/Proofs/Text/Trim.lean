import CollectionSearch.Text.Character
import Mathlib.Data.List.DropRight

/-!
# Texts without blank ends

What trimming keeps of a text.

**Main statements:** the first character that is not blank becomes the first one
(`head?_trimChars`), and no character that is not blank is lost (`mem_trimChars_of_not_isSpace`).
-/

namespace CollectionSearch.Text

/-- Dropping keeps what is not to be dropped. -/
theorem mem_dropWhile_of_eq_false {α : Type} {p : α → Bool} {a : α} (ha : p a = false) {l : List α}
    (hl : a ∈ l) : a ∈ l.dropWhile p := by
  rw [← List.takeWhile_append_dropWhile (p := p) (l := l)] at hl
  rcases List.mem_append.mp hl with h | h
  · rw [List.mem_takeWhile_imp h] at ha
    cases ha
  · exact h

/-- What is dropped at the end of a list does not reach its first element, if that is not to be
dropped. -/
theorem head?_rdropWhile {α : Type} {p : α → Bool} {a : α} (ha : p a = false) (l : List α) :
    ((a :: l).rdropWhile p).head? = some a := by
  rcases h : (a :: l).rdropWhile p with _ | ⟨first, rest⟩
  · rw [List.rdropWhile_eq_nil_iff.mp h a List.mem_cons_self] at ha
    cases ha
  · have hprefix : first :: rest <+: a :: l := h ▸ List.rdropWhile_prefix p (a :: l)
    rw [List.head?_cons, (List.cons_prefix_cons.mp hprefix).1]

/-- What is dropped at the end of a list does not reach what must not be dropped in front. -/
theorem rdropWhile_append_of_neg {α : Type} {p : α → Bool} {l : List α} (hl : ∀ a ∈ l, p a = false)
    (rest : List α) : (l ++ rest).rdropWhile p = l ++ rest.rdropWhile p := by
  induction rest using List.reverseRecOn with
  | nil =>
    rw [List.append_nil, List.rdropWhile_nil, List.append_nil, List.rdropWhile_eq_self_iff]
    intro hne
    rw [hl _ (List.getLast_mem hne)]
    exact Bool.false_ne_true
  | append_singleton rest a ih =>
    rw [← List.append_assoc]
    by_cases ha : p a = true
    · rw [List.rdropWhile_concat_pos p _ a ha, List.rdropWhile_concat_pos p _ a ha, ih]
    · rw [List.rdropWhile_concat_neg p _ a ha, List.rdropWhile_concat_neg p _ a ha,
        List.append_assoc]

/-- Trimming begins with the first character that is not blank. -/
theorem head?_trimChars (cs : List Char) :
    (trimChars cs).head? = cs.find? fun c => !isSpace c := by
  rw [List.find?_eq_head?_dropWhile_not]
  simp only [Bool.not_not]
  change ((cs.dropWhile isSpace).rdropWhile isSpace).head? = _
  have hhead := List.head?_dropWhile_not isSpace cs
  rcases h : cs.dropWhile isSpace with _ | ⟨c, rest⟩
  · rfl
  · rw [h] at hhead
    exact head?_rdropWhile hhead rest

/-- Trimming keeps the characters that are not blank. -/
theorem mem_trimChars_of_not_isSpace {c : Char} (hc : isSpace c = false) {cs : List Char}
    (h : c ∈ cs) : c ∈ trimChars cs := by
  rw [trimChars, List.mem_reverse]
  refine mem_dropWhile_of_eq_false hc ?_
  rw [List.mem_reverse]
  exact mem_dropWhile_of_eq_false hc h

/-- It adds none. -/
theorem trimChars_subset (cs : List Char) : trimChars cs ⊆ cs := by
  intro c hc
  rw [trimChars, List.mem_reverse] at hc
  have hmem := (List.dropWhile_suffix _).subset hc
  rw [List.mem_reverse] at hmem
  exact (List.dropWhile_suffix _).subset hmem

end CollectionSearch.Text
