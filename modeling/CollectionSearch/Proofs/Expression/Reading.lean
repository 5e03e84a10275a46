import CollectionSearch.Proofs.Expression.Syntax

/-!
# The value of expressions

A filter expression says nothing about how `&&` and `||` in one chain are to be grouped, so there
are several readings of a chain. They differ only where both stand in the same parentheses.

* `Connective.apply`, `Connective.over` : the truth function of a connective, for two values and for
  any number of them.
* `Reading`, `Reading.combine` : how the values in a chain are combined.
* `Term.value`, `Chain.value` : the value of an expression, from the values of its atoms.
* `Chain.Unmixed` : whether no parentheses hold both connectives directly.

**Main statements:** `value_eq_of_unmixed` says that unmixed expressions have the same value in all
readings, `value_joined` what it is for terms that are joined by one connective.
-/

namespace CollectionSearch.Expression

/-! ## Readings -/

/-- The truth function of a connective. -/
def Connective.apply : Connective → Bool → Bool → Bool
  | and => Bool.and
  | or => Bool.or

/-- The truth function of a connective for a list of values. -/
def Connective.over : Connective → List Bool → Bool
  | and, bs => bs.all id
  | or, bs => bs.any id

/-- How a chain is grouped. -/
inductive Reading where
  /-- The connective binds tighter than the other one. -/
  | tighter (c : Connective)
  /-- From left to right. -/
  | leftToRight

/-- The value of a chain in which one connective binds tighter. A term takes part in the chain of
that connective until the other one comes, which then stands before all the rest. -/
def Connective.combineTighter (c : Connective) (b : Bool) : List (Connective × Bool) → Bool
  | [] => b
  | (d, next) :: rest =>
    if d = c then combineTighter c (c.apply b next) rest
    else d.apply b (combineTighter c next rest)

/-- The value of a chain, from the values of its terms. -/
def Reading.combine : Reading → Bool → List (Connective × Bool) → Bool
  | tighter c, b, rest => c.combineTighter b rest
  | leftToRight, b, rest => rest.foldl (fun acc e => e.1.apply acc e.2) b

mutual

/-- The value of a term. -/
def Term.value (r : Reading) (v : String → Bool) : Term → Bool
  | .atom text => v text
  | .group first rest => r.combine (first.value r v) (restValues r v rest)

/-- The values of the terms after the first. -/
def restValues (r : Reading) (v : String → Bool) :
    List (Connective × Term) → List (Connective × Bool)
  | [] => []
  | (c, t) :: rest => (c, t.value r v) :: restValues r v rest

end

/-- The value of an expression. -/
def Chain.value (r : Reading) (v : String → Bool) (chain : Chain) : Bool :=
  r.combine (chain.first.value r v) (restValues r v chain.rest)

/-- The connectives that are not nested in parentheses are all the same. -/
def OneConnective {α : Type} (rest : List (Connective × α)) : Prop := ∃ c, ∀ e ∈ rest, e.1 = c

mutual

/-- Whether no parentheses of a term hold both connectives directly. -/
def Term.Unmixed : Term → Prop
  | .atom _ => True
  | .group first rest => first.Unmixed ∧ RestUnmixed rest ∧ OneConnective rest

/-- Whether this is so for the terms after the first. -/
def RestUnmixed : List (Connective × Term) → Prop
  | [] => True
  | (_, t) :: rest => t.Unmixed ∧ RestUnmixed rest

end

/-- Whether neither the whole expression nor any parentheses in it hold both connectives
directly. -/
def Chain.Unmixed (chain : Chain) : Prop :=
  chain.first.Unmixed ∧ RestUnmixed chain.rest ∧ OneConnective chain.rest

/-- Mixed connectives are read differently. -/
example : ∃ v : String → Bool,
    (Chain.mk (.atom "a") [(.or, .atom "b"), (.and, .atom "c")]).value (.tighter .and) v ≠
      (Chain.mk (.atom "a") [(.or, .atom "b"), (.and, .atom "c")]).value .leftToRight v :=
  ⟨fun s => s = "a", by decide⟩

/-! ## Unmixed expressions -/

/-- One value is its own truth value. -/
theorem over_singleton (c : Connective) (b : Bool) : c.over [b] = b := by
  cases c <;> simp [Connective.over]

/-- Values joined by `&&` must all be true. -/
theorem over_and_map {α : Type} (f : α → Bool) (l : List α) :
    Connective.and.over (l.map f) = l.all f := by
  rw [Connective.over, List.all_map]
  rfl

/-- One of the values joined by `||` must be true. -/
theorem over_or_map {α : Type} (f : α → Bool) (l : List α) :
    Connective.or.over (l.map f) = l.any f := by
  rw [Connective.over, List.any_map]
  rfl

/-- A connective takes its values together from the right. -/
theorem apply_over (c : Connective) (b : Bool) (bs : List Bool) :
    c.apply b (c.over bs) = c.over (b :: bs) := by
  cases c <;> rfl

/-- A connective takes its values together from the left. -/
theorem over_apply (c : Connective) (b next : Bool) (bs : List Bool) :
    c.over (c.apply b next :: bs) = c.over (b :: next :: bs) := by
  cases c
  · exact Bool.and_assoc b next (bs.all id)
  · exact Bool.or_assoc b next (bs.any id)

/-- A chain of one connective has its value, whichever of the two binds tighter. -/
theorem combineTighter_of_forall (c : Connective) {d : Connective} :
    (rest : List (Connective × Bool)) → (∀ e ∈ rest, e.1 = d) → ∀ b,
      c.combineTighter b rest = d.over (b :: rest.map Prod.snd)
  | [], _, b => (over_singleton d b).symm
  | (e, next) :: rest, h, b => by
      obtain rfl : e = d := h (e, next) List.mem_cons_self
      have hrest : ∀ k ∈ rest, k.1 = e := fun k hk => h k (List.mem_cons_of_mem _ hk)
      rw [Connective.combineTighter, combineTighter_of_forall c rest hrest,
        combineTighter_of_forall c rest hrest, List.map_cons]
      -- either the chain is one tight run or every term is a run of its own
      by_cases hec : e = c
      · rw [if_pos hec, ← hec, over_apply]
      · rw [if_neg hec, apply_over]

/-- A chain of one connective has its value from left to right. -/
theorem foldl_of_forall {d : Connective} :
    (rest : List (Connective × Bool)) → (∀ e ∈ rest, e.1 = d) → ∀ b,
      rest.foldl (fun acc e => e.1.apply acc e.2) b = d.over (b :: rest.map Prod.snd)
  | [], _, b => (over_singleton d b).symm
  | (e, next) :: rest, h, b => by
      obtain rfl : e = d := h (e, next) List.mem_cons_self
      have hrest : ∀ k ∈ rest, k.1 = e := fun k hk => h k (List.mem_cons_of_mem _ hk)
      rw [List.foldl_cons, foldl_of_forall rest hrest, over_apply, List.map_cons]

/-- A chain of one connective has the same value in all readings. -/
theorem combine_of_forall (r : Reading) {d : Connective} {rest : List (Connective × Bool)}
    (h : ∀ e ∈ rest, e.1 = d) (b : Bool) : r.combine b rest = d.over (b :: rest.map Prod.snd) := by
  cases r with
  | tighter c => exact combineTighter_of_forall c rest h b
  | leftToRight => exact foldl_of_forall rest h b

/-- The terms after the first have their values, each after its connective. -/
theorem restValues_eq_map (r : Reading) (v : String → Bool) :
    (rest : List (Connective × Term)) →
      restValues r v rest = rest.map fun e => (e.1, e.2.value r v)
  | [] => rfl
  | (c, t) :: rest => by rw [restValues, restValues_eq_map r v rest, List.map_cons]

/-- The values of an unmixed chain are combined in the same way in all readings. -/
theorem combine_restValues {r : Reading} {v : String → Bool} {rest : List (Connective × Term)}
    (h : OneConnective rest) (s : Reading) (b : Bool) :
    r.combine b (restValues r v rest) = s.combine b (restValues r v rest) := by
  obtain ⟨c, hc⟩ := h
  have hvalues : ∀ e ∈ restValues r v rest, e.1 = c := by
    rw [restValues_eq_map]
    intro e he
    obtain ⟨k, hk, rfl⟩ := List.mem_map.mp he
    exact hc k hk
  rw [combine_of_forall r hvalues, combine_of_forall s hvalues]

mutual

/-- An unmixed term has the same value in all readings. -/
theorem Term.value_eq_of_unmixed (r s : Reading) (v : String → Bool) :
    (t : Term) → t.Unmixed → t.value r v = t.value s v
  | .atom _, _ => rfl
  | .group first rest, h => by
      rw [Term.Unmixed] at h
      obtain ⟨hfirst, hrest, hone⟩ := h
      rw [Term.value, Term.value, combine_restValues hone s,
        Term.value_eq_of_unmixed r s v first hfirst, restValues_eq_of_unmixed r s v rest hrest]

/-- So have the terms after the first. -/
theorem restValues_eq_of_unmixed (r s : Reading) (v : String → Bool) :
    (rest : List (Connective × Term)) → RestUnmixed rest → restValues r v rest = restValues s v rest
  | [], _ => rfl
  | (c, t) :: rest, h => by
      rw [RestUnmixed] at h
      rw [restValues, restValues, Term.value_eq_of_unmixed r s v t h.1,
        restValues_eq_of_unmixed r s v rest h.2]

end

/-- **An unmixed expression has the same value in all readings.** -/
theorem Chain.value_eq_of_unmixed {chain : Chain} (h : chain.Unmixed) (r s : Reading)
    (v : String → Bool) : chain.value r v = chain.value s v := by
  obtain ⟨hfirst, hrest, hone⟩ := h
  rw [Chain.value, Chain.value, combine_restValues hone s,
    Term.value_eq_of_unmixed r s v chain.first hfirst,
    restValues_eq_of_unmixed r s v chain.rest hrest]

/-! ## Joined terms -/

/-- The terms after the first are unmixed when each of them is. -/
theorem restUnmixed_of_forall : {rest : List (Connective × Term)} →
    (∀ e ∈ rest, e.2.Unmixed) → RestUnmixed rest
  | [], _ => trivial
  | (_, t) :: _, h =>
      ⟨h (_, t) List.mem_cons_self,
        restUnmixed_of_forall fun e he => h e (List.mem_cons_of_mem _ he)⟩

/-- Joined terms are unmixed when each of them is. -/
theorem unmixed_joined (c : Connective) {first : Term} {others : List Term}
    (h : ∀ t ∈ first :: others, t.Unmixed) : (Chain.joined c first others).Unmixed := by
  refine ⟨h first List.mem_cons_self, restUnmixed_of_forall ?_, c, ?_⟩
  · intro e he
    obtain ⟨t, ht, rfl⟩ := List.mem_map.mp he
    exact h t (List.mem_cons_of_mem first ht)
  · intro e he
    obtain ⟨t, -, rfl⟩ := List.mem_map.mp he
    rfl

/-- Joined terms that are made from a list are unmixed when all such terms are. -/
theorem unmixed_joined_map {α : Type} (c : Connective) {f : α → Term} (h : ∀ a, (f a).Unmixed)
    (a : α) (l : List α) : (Chain.joined c (f a) (l.map f)).Unmixed := by
  refine unmixed_joined c ?_
  intro t ht
  rw [← List.map_cons] at ht
  obtain ⟨x, -, rfl⟩ := List.mem_map.mp ht
  exact h x

/-- Parentheses keep the value. -/
theorem value_group (r : Reading) (v : String → Bool) (chain : Chain) :
    chain.group.value r v = chain.value r v := by
  rw [Chain.group, Term.value, Chain.value]

/-- A chain in parentheses is unmixed when it is. -/
theorem unmixed_group {chain : Chain} (h : chain.Unmixed) : chain.group.Unmixed := h

/-- **Joined terms have the value of the connective for their values**, in all readings. -/
theorem value_joined (r : Reading) (v : String → Bool) (c : Connective) (first : Term)
    (others : List Term) :
    (Chain.joined c first others).value r v = c.over ((first :: others).map (Term.value r v)) := by
  have hvalues : ∀ e ∈ restValues r v (Chain.joined c first others).rest, e.1 = c := by
    rw [restValues_eq_map]
    intro e he
    obtain ⟨k, hk, rfl⟩ := List.mem_map.mp he
    obtain ⟨t, -, rfl⟩ := List.mem_map.mp hk
    rfl
  rw [Chain.value, combine_of_forall r hvalues, restValues_eq_map, Chain.joined, List.map_map,
    List.map_map, List.map_cons]
  rfl

/-- Joined terms that are made from a list have the value of the connective for its elements. -/
theorem value_joined_map {α : Type} (r : Reading) (v : String → Bool) (c : Connective)
    (f : α → Term) (a : α) (l : List α) :
    (Chain.joined c (f a) (l.map f)).value r v =
      c.over ((a :: l).map fun x => (f x).value r v) := by
  rw [value_joined, ← List.map_cons, List.map_map]
  rfl

end CollectionSearch.Expression
