import CollectionSearch.Proofs.Repository.Trace
import CollectionSearch.Proofs.Schema.Build

/-!
# Searches

What searches ask the service for. A search that is refused asks for nothing. Otherwise a search by
criteria makes sure of the collection, whether that succeeds or not, and then sends a single call. A
search by vector sends a single call with a single request.

A failure of a search by vector is told inside its answer, in a member `error`. It is noticed if
that is a text. As the reader of answers ignores members that it does not know and supplies those
that are missing, a failure that is told in another form may be read as an answer without hits.

* `CollectionSchema.HoldsVectors` : whether a field is declared to hold vectors.
* `Repository.searched`, `Repository.vectorSearched` : what a search returns, by the outcome of its
  call.
* `Repository.Surfaces` : whether a failure that is told inside an answer is returned as one.

**Main statements:** `refused_or_sent_once` says when searches are refused and what they send
otherwise, and `surfaces_vectorSearch_iff` which failures are returned as such.
`failure_read_as_no_hits` shows one that is not.
-/

namespace CollectionSearch

/-! ## Fields that hold vectors -/

/-- Whether a field is declared to hold vectors: numbers whose shape is given or computed. -/
def CollectionSchema.HoldsVectors (s : CollectionSchema) (name : String) : Prop :=
  ∃ f, s.field? name = some f ∧ f.type = .floatArray ∧
    (f.dimensions ≠ none ∨ f.embedding ≠ none)

/-- The fields that are listed for vectors are those. -/
theorem CollectionSchema.mem_vectors_iff (s : CollectionSchema) (name : String) :
    name ∈ s.vectors ↔ s.HoldsVectors name := by
  have hlists : s.Lists s.vectors fun _ f =>
      f.type = .floatArray ∧ (f.dimensions ≠ none ∨ f.embedding ≠ none) :=
    lists_namesWhere fun _ f _ => by simp [Field.isVector, Option.isSome_iff_ne_none]
  exact hlists.mem_iff name

/-- A query is accepted exactly if its field holds vectors. -/
theorem VectorQuery.check_eq_ok_iff_holdsVectors (q : VectorQuery) (s : CollectionSchema) :
    q.check s = .ok () ↔ s.HoldsVectors q.field := by
  rw [check_eq_ok_iff, CollectionSchema.mem_vectors_iff]

/-- It is refused, for this reason only, exactly if its field does not. -/
theorem VectorQuery.check_eq_error_iff (q : VectorQuery) (s : CollectionSchema) (e : QueryError) :
    q.check s = .error e ↔ ¬ s.HoldsVectors q.field ∧ e = .notVector q.field := by
  rw [check, ← s.mem_vectors_iff]
  split
  · rename_i h
    exact iff_of_false nofun fun hfail => hfail.1 h
  · rename_i h
    rw [Except.error.injEq, and_iff_right h, eq_comm]

/-- Products with a vector for each of them. -/
def vectorProducts : Repository Json :=
  ⟨(CollectionDraft.vector { name := "products" } "embedding" 2).schema (by decide), {}, .json⟩

namespace Repository

variable {D σ : Type} (r : Repository D)

/-! ## By the outcome of the call -/

/-- What a search by criteria returns, by the outcome of its call. -/
def searched : Except BackendError Json → Except RepositoryError (SearchResult D)
  | .error e => .error (.backend e)
  | .ok answer =>
    match SearchResponse.decode r.codec.decode answer with
    | .error e => .error (.undecodable e)
    | .ok response => .ok ⟨response, response.facets⟩

/-- What a search by vector returns, by the outcome of its call. -/
def vectorSearched : Except BackendError (List Json) → Except RepositoryError (SearchResponse D)
  | .error e => .error (.backend e)
  | .ok answers =>
    match firstAnswer answers with
    | .error e => .error (.backend e)
    | .ok answer => (SearchResponse.decode r.codec.decode answer).mapError .undecodable

/-- What goes wrong after a search has been sent is not blamed on its query. -/
theorem searched_ne_query (o : Except BackendError Json) (e : QueryError) :
    r.searched o ≠ .error (.query e) := by
  intro h
  rcases o with e' | answer
  · cases h
  · rw [searched] at h
    cases hd : SearchResponse.decode r.codec.decode answer <;> rw [hd] at h <;> cases h

theorem vectorSearched_ne_query (o : Except BackendError (List Json)) (e : QueryError) :
    r.vectorSearched o ≠ .error (.query e) := by
  intro h
  rcases o with e' | answers
  · cases h
  · rw [vectorSearched] at h
    rcases hf : firstAnswer answers with e' | answer
    · rw [hf] at h
      cases h
    · rw [hf] at h
      dsimp only at h
      cases hd : SearchResponse.decode r.codec.decode answer <;> rw [hd] at h <;> cases h

/-! ## Searches without their signals -/

/-- A search by criteria that are accepted makes sure of the collection and then one call. -/
theorem silent_search {c : SearchCriteria} (h : c.check r.schema = .ok ()) :
    (r.search c).run.silent = r.ensure.silent >>= fun _ =>
      .call (.search r.name (c.toParams r.schema)) fun o => .done (r.searched o) := by
  unfold search
  rw [Action.run_ofExcept_bind, h]
  dsimp only
  rw [Action.run_lift_bind, Program.silent_bind]
  refine bind_congr fun _ => ?_
  rw [Action.run_lift_bind, Program.silent_bind, Program.silent_signals, Action.run_lift_bind,
    Action.run_timed_perform_bind]
  refine congrArg (Program.call _) (funext fun o => ?_)
  rcases o with e | answer
  · rfl
  · change Program.silent (Action.decode (SearchResponse.decode r.codec.decode) answer >>=
      _ : Action _).run = _
    rw [Action.decode, Action.run_ofExcept_bind, searched]
    rcases SearchResponse.decode r.codec.decode answer with e | response <;> rfl

/-- Of other criteria nothing comes but the refusal. -/
theorem run_search_of_refused {c : SearchCriteria} {e : QueryError}
    (h : c.check r.schema = .error e) : (r.search c).run = .done (.error (.query e)) := by
  unfold search
  rw [Action.run_ofExcept_bind, h]

/-- A search by vector that is accepted makes one call. -/
theorem silent_vectorSearch {v : VectorSearch} (h : (r.vectorQuery v).check r.schema = .ok ()) :
    (r.vectorSearch v).run.silent =
      .call (.multiSearch [r.vectorRequest v]) fun o => .done (r.vectorSearched o) := by
  unfold vectorSearch
  rw [Action.run_ofExcept_bind, h]
  dsimp only
  rw [Action.run_lift_bind, Action.run_timed_perform_bind]
  refine congrArg (Program.call _) (funext fun o => ?_)
  rcases o with e | answers
  · rfl
  · change Program.silent (Action.ofExcept .backend (firstAnswer answers) >>= _ : Action _).run = _
    rw [Action.run_ofExcept_bind, vectorSearched]
    rcases firstAnswer answers with e | answer
    · rfl
    · dsimp only
      rw [Action.decode, Action.run_ofExcept_bind]
      rcases SearchResponse.decode r.codec.decode answer with e | response <;> rfl

/-- Of any other nothing comes but the refusal. -/
theorem run_vectorSearch_of_refused {v : VectorSearch} (h : ¬ r.schema.HoldsVectors v.field) :
    (r.vectorSearch v).run = .done (.error (.query (.notVector v.field))) := by
  have hrefused : (r.vectorQuery v).check r.schema = .error (.notVector v.field) :=
    ((r.vectorQuery v).check_eq_error_iff r.schema _).mpr ⟨h, rfl⟩
  unfold vectorSearch
  rw [Action.run_ofExcept_bind, hrefused]

/-! ## Refused or sent once -/

section runs

variable (b : Backend σ) (state : σ)

/-- A search by criteria that are accepted, as a run. -/
theorem exists_prepares_search {c : SearchCriteria} (h : c.check r.schema = .ok ()) :
    ∃ setup o, r.Prepares setup ∧
      (r.search c).run.exchanges b state =
        setup ++ [⟨.search r.name (c.toParams r.schema), o⟩] ∧
      (r.search c).run.value b state = r.searched o :=
  r.exists_prepares_of_silent_eq (r.silent_search h) b state

/-- A search by criteria is refused exactly if the criteria are, and for the same reason. -/
theorem value_search_eq_query_iff (c : SearchCriteria) (e : QueryError) :
    (r.search c).run.value b state = .error (.query e) ↔ c.check r.schema = .error e := by
  rcases hcheck : c.check r.schema with e' | ⟨⟩
  · rw [run_search_of_refused r hcheck, Program.value_done, Except.error.injEq,
      RepositoryError.query.injEq, Except.error.injEq]
  · obtain ⟨_, o, -, -, hvalue⟩ := r.exists_prepares_search b state hcheck
    rw [hvalue]
    exact iff_of_false (r.searched_ne_query o e) nofun

/-- A search by vector that is accepted, as a run. -/
theorem exchanges_vectorSearch {v : VectorSearch} (h : r.schema.HoldsVectors v.field) :
    (r.vectorSearch v).run.exchanges b state =
        [⟨.multiSearch [r.vectorRequest v],
          ((b (.multiSearch [r.vectorRequest v])).run state).1⟩] ∧
      (r.vectorSearch v).run.value b state =
        r.vectorSearched ((b (.multiSearch [r.vectorRequest v])).run state).1 := by
  have hsilent := r.silent_vectorSearch
    (((r.vectorQuery v).check_eq_ok_iff_holdsVectors r.schema).mpr h)
  rw [← Program.exchanges_silent, ← Program.value_silent, hsilent]
  exact ⟨rfl, rfl⟩

/-- A search by vector is refused exactly if its field does not hold vectors. -/
theorem value_vectorSearch_eq_query_iff (v : VectorSearch) (e : QueryError) :
    (r.vectorSearch v).run.value b state = .error (.query e) ↔
      ¬ r.schema.HoldsVectors v.field ∧ e = .notVector v.field := by
  by_cases h : r.schema.HoldsVectors v.field
  · rw [(r.exchanges_vectorSearch b state h).2]
    exact iff_of_false (r.vectorSearched_ne_query _ e) fun hfail => hfail.1 h
  · rw [run_vectorSearch_of_refused r h, Program.value_done, Except.error.injEq,
      RepositoryError.query.injEq, and_iff_right h, eq_comm]

/-- **A search that is refused has no effect, and any other reaches the service once**, whatever is
answered. A search by criteria is refused exactly if the criteria do not pass their check, with the
error of the check, and a search by vector exactly if its field does not hold vectors. Otherwise the
first makes sure of the collection and then sends one call with the parameters that the criteria are
put together to, and the second sends one call with one request and nothing else. -/
theorem refused_or_sent_once (c : SearchCriteria) (v : VectorSearch) :
    ((∀ e, (r.search c).run.value b state = .error (.query e) ↔ c.check r.schema = .error e) ∧
      (∀ e, c.check r.schema = .error e → (r.search c).run.exchanges b state = []) ∧
      (c.check r.schema = .ok () →
        ∃ setup o, r.Prepares setup ∧
          (r.search c).run.exchanges b state =
            setup ++ [⟨.search r.name (c.toParams r.schema), o⟩] ∧
          (r.search c).run.value b state = r.searched o)) ∧
    (∀ e, (r.vectorSearch v).run.value b state = .error (.query e) ↔
      ¬ r.schema.HoldsVectors v.field ∧ e = .notVector v.field) ∧
    (¬ r.schema.HoldsVectors v.field → (r.vectorSearch v).run.exchanges b state = []) ∧
    (r.schema.HoldsVectors v.field →
      ∃ o, (r.vectorSearch v).run.exchanges b state =
          [⟨.multiSearch [r.vectorRequest v], o⟩] ∧
        (r.vectorSearch v).run.value b state = r.vectorSearched o) := by
  refine ⟨⟨?_, ?_, ?_⟩, ?_, ?_, ?_⟩
  · exact r.value_search_eq_query_iff b state c
  · intro e he
    rw [run_search_of_refused r he]
    rfl
  · exact r.exists_prepares_search b state
  · exact r.value_vectorSearch_eq_query_iff b state v
  · intro h
    rw [run_vectorSearch_of_refused r h]
    rfl
  · exact fun h => ⟨_, r.exchanges_vectorSearch b state h⟩

end runs

/-- A service that lacks the collection, does not create it and finds nothing. -/
def withoutCollection : Backend Unit
  | .collectionExists _ => pure (.ok false)
  | .search _ _ => pure (.ok (.object []))
  | .multiSearch _ => pure (.ok [.object []])
  | _ => pure (.error (.connection "refused"))

/-- Faceting by vectors is refused, and so is a search by vector in a field without them. A search
for everything is sent although the collection could not be created. -/
theorem refused_or_sent_once_products :
    let r := vectorProducts
    let facets : SearchCriteria := { facets := [.all "embedding"] }
    let name : VectorSearch := { field := "name", vector := [] }
    let embedding : VectorSearch := { field := "embedding", vector := [] }
    (facets.check r.schema = .error (.notFacetable "embedding") ∧
      (r.search facets).run.exchanges withoutCollection () = [] ∧
      (r.search facets).run.value withoutCollection () =
        .error (.query (.notFacetable "embedding"))) ∧
    (SearchCriteria.check {} r.schema = .ok () ∧
      ∃ setup o, r.Prepares setup ∧
        (r.search {}).run.exchanges withoutCollection () =
          setup ++ [⟨.search "products" (SearchCriteria.toParams {} r.schema), o⟩]) ∧
    (¬ r.schema.HoldsVectors "name" ∧
      (r.vectorSearch name).run.exchanges withoutCollection () = []) ∧
    r.schema.HoldsVectors "embedding" ∧
      ∃ o, (r.vectorSearch embedding).run.exchanges withoutCollection () =
        [⟨.multiSearch [r.vectorRequest embedding], o⟩] := by
  intro r facets name embedding
  have hfacets : facets.check r.schema = .error (.notFacetable "embedding") := rfl
  have hname : ¬ r.schema.HoldsVectors "name" := by
    rw [← CollectionSchema.mem_vectors_iff]
    decide
  have hembedding : r.schema.HoldsVectors "embedding" := by
    rw [← CollectionSchema.mem_vectors_iff]
    decide
  obtain ⟨⟨hquery, hrefused, -⟩, -, hnone, -⟩ :=
    r.refused_or_sent_once withoutCollection () facets name
  obtain ⟨⟨-, -, hsent⟩, -, -, honce⟩ :=
    r.refused_or_sent_once withoutCollection () {} embedding
  obtain ⟨setup, o, hsetup, hexchanges, -⟩ := hsent rfl
  obtain ⟨answer, hanswer, -⟩ := honce hembedding
  exact ⟨⟨hfacets, hrefused _ hfacets, (hquery _).mpr hfacets⟩,
    ⟨rfl, setup, o, hsetup, hexchanges⟩, ⟨hname, hnone hname⟩, hembedding, answer, hanswer⟩

/-! ## Failures inside answers -/

/-- An answer reports a failure exactly if that is told as a text. -/
theorem embeddedError_eq_some_iff (answer : Json) (reason : String) :
    embeddedError answer = some reason ↔ answer.get? "error" = some (.string reason) := by
  unfold embeddedError
  rcases answer.get? "error" with _ | j
  · simp
  · cases j <;> simp [Json.string?]

/-- The answer that is read is the first, if it reports no failure. -/
theorem firstAnswer_eq_ok_iff (answers : List Json) (answer : Json) :
    firstAnswer answers = .ok answer ↔
      answers.head? = some answer ∧ ∀ reason, answer.get? "error" ≠ some (.string reason) := by
  rcases answers with _ | ⟨first, rest⟩
  · refine iff_of_false ?_ ?_
    · intro h
      cases h
    · rintro ⟨h, -⟩
      cases h
  · rw [firstAnswer, List.head?_cons, Option.some.injEq]
    rcases h : embeddedError first with _ | reason
    · have hnone : ∀ reason, first.get? "error" ≠ some (.string reason) := by
        intro reason hreason
        rw [(embeddedError_eq_some_iff first reason).mpr hreason] at h
        cases h
      rw [Except.ok.injEq]
      constructor
      · rintro rfl
        exact ⟨rfl, hnone⟩
      · exact And.left
    · refine iff_of_false ?_ ?_
      · intro hok
        cases hok
      · rintro ⟨rfl, hnone⟩
        exact hnone reason ((embeddedError_eq_some_iff first reason).mp h)

/-- Nothing is read if there is no answer or the first reports a failure. -/
theorem firstAnswer_eq_refused_iff (answers : List Json) (reason : String) :
    firstAnswer answers = .error (.refused reason) ↔
      answers = [] ∧ reason = "multi_search returned no results" ∨
        ∃ first, answers.head? = some first ∧ first.get? "error" = some (.string reason) := by
  rcases answers with _ | ⟨first, rest⟩
  · simp [firstAnswer, eq_comm]
  · rw [firstAnswer]
    simp only [List.cons_ne_nil, false_and, false_or, List.head?_cons, Option.some.injEq,
      exists_eq_left', ← embeddedError_eq_some_iff]
    cases embeddedError first <;> simp

/-- Whether a search by vector returns a failure that is told inside the answers as a failure. -/
structure Surfaces (answers : List Json) (result : Except RepositoryError (SearchResponse D)) :
    Prop where
  /-- What is returned is the first answer, and that tells of no failure. -/
  ok : ∀ response, result = .ok response →
    ∃ first, answers.head? = some first ∧
      (∀ told, first.get? "error" = some told → told = .null) ∧
      SearchResponse.decode r.codec.decode first = .ok response
  /-- That there is no answer is a failure. -/
  empty : answers = [] → ∃ reason, result = .error (.backend (.refused reason))
  /-- What the first answer tells of, in any form, is a failure. -/
  failed : ∀ first told, answers.head? = some first → first.get? "error" = some told →
    told ≠ .null → ∃ reason, result = .error (.backend (.refused reason))

section answers

variable (b : Backend σ) (state : σ) {v : VectorSearch} (hv : r.schema.HoldsVectors v.field)
  {answers : List Json}
  (hanswers : ((b (.multiSearch [r.vectorRequest v])).run state).1 = .ok answers)

theorem vectorSearched_eq_ok_iff (response : SearchResponse D) :
    r.vectorSearched (.ok answers) = .ok response ↔
      ∃ first, answers.head? = some first ∧
        (∀ reason, first.get? "error" ≠ some (.string reason)) ∧
        SearchResponse.decode r.codec.decode first = .ok response := by
  simp only [← and_assoc, ← firstAnswer_eq_ok_iff]
  rw [vectorSearched]
  rcases firstAnswer answers with e | first
  · refine iff_of_false nofun ?_
    rintro ⟨_, h, -⟩
    cases h
  · simp only [Except.ok.injEq, exists_eq_left']
    cases SearchResponse.decode r.codec.decode first <;> simp [Except.mapError]

theorem vectorSearched_eq_refused_iff (reason : String) :
    r.vectorSearched (.ok answers) = .error (.backend (.refused reason)) ↔
      answers = [] ∧ reason = "multi_search returned no results" ∨
        ∃ first, answers.head? = some first ∧ first.get? "error" = some (.string reason) := by
  rw [← firstAnswer_eq_refused_iff, vectorSearched]
  rcases firstAnswer answers with e | first
  · simp
  · refine iff_of_false (fun h => ?_) nofun
    dsimp only at h
    cases hd : SearchResponse.decode r.codec.decode first <;> rw [hd] at h <;> cases h

/-- Only the first answer is looked at. -/
theorem vectorSearched_congr {answers' : List Json} (h : answers'.head? = answers.head?) :
    r.vectorSearched (.ok answers') = r.vectorSearched (.ok answers) := by
  have hfirst : firstAnswer answers' = firstAnswer answers := by
    rcases answers with _ | ⟨first, rest⟩ <;> rcases answers' with _ | ⟨first', rest'⟩
    · rfl
    · cases h
    · cases h
    · cases h
      rfl
  rw [vectorSearched, vectorSearched, hfirst]

/-- A failure is returned as one exactly if it is told as a text, if it is told. -/
theorem surfaces_vectorSearched_iff :
    r.Surfaces answers (r.vectorSearched (.ok answers)) ↔
      ∀ first told, answers.head? = some first → first.get? "error" = some told →
        told = .null ∨ ∃ reason, told = .string reason := by
  constructor
  · intro h first told hfirst htold
    by_cases hnull : told = .null
    · exact .inl hnull
    · obtain ⟨reason, hrefused⟩ := h.failed first told hfirst htold hnull
      refine .inr ⟨reason, ?_⟩
      rcases (r.vectorSearched_eq_refused_iff reason).mp hrefused with
        ⟨rfl, -⟩ | ⟨_, hhead, hreason⟩
      · cases hfirst
      · rw [hfirst, Option.some.injEq] at hhead
        subst hhead
        exact Option.some.inj (htold.symm.trans hreason)
  · intro h
    refine ⟨?_, ?_, ?_⟩
    · intro response hresponse
      obtain ⟨first, hfirst, hnone, hdecode⟩ := (r.vectorSearched_eq_ok_iff response).mp hresponse
      refine ⟨first, hfirst, fun told htold => ?_, hdecode⟩
      rcases h first told hfirst htold with hnull | ⟨reason, rfl⟩
      · exact hnull
      · exact absurd htold (hnone reason)
    · rintro rfl
      exact ⟨_, rfl⟩
    · intro first told hfirst htold hnull
      obtain ⟨reason, rfl⟩ := (h first told hfirst htold).resolve_left hnull
      exact ⟨reason, (r.vectorSearched_eq_refused_iff reason).mpr (.inr ⟨first, hfirst, htold⟩)⟩

include hv hanswers

/-- **A failure that is told inside the first answer is returned as one exactly if it is told as a
text.** A search by vector returns the first answer exactly if that tells of no failure as a text
and can be read, and is refused by the service exactly if there is no answer or the first tells of a
failure as a text. The other answers are not looked at. -/
theorem surfaces_vectorSearch_iff :
    (∀ response, (r.vectorSearch v).run.value b state = .ok response ↔
      ∃ first, answers.head? = some first ∧
        (∀ reason, first.get? "error" ≠ some (.string reason)) ∧
        SearchResponse.decode r.codec.decode first = .ok response) ∧
    (∀ reason, (r.vectorSearch v).run.value b state = .error (.backend (.refused reason)) ↔
      answers = [] ∧ reason = "multi_search returned no results" ∨
        ∃ first, answers.head? = some first ∧ first.get? "error" = some (.string reason)) ∧
    (∀ {τ : Type} (b' : Backend τ) (state' : τ) (answers' : List Json),
      ((b' (.multiSearch [r.vectorRequest v])).run state').1 = .ok answers' →
      answers'.head? = answers.head? →
      (r.vectorSearch v).run.value b' state' = (r.vectorSearch v).run.value b state) ∧
    (r.Surfaces answers ((r.vectorSearch v).run.value b state) ↔
      ∀ first told, answers.head? = some first → first.get? "error" = some told →
        told = .null ∨ ∃ reason, told = .string reason) := by
  have hvalue : (r.vectorSearch v).run.value b state = r.vectorSearched (.ok answers) := by
    rw [(r.exchanges_vectorSearch b state hv).2, hanswers]
  rw [hvalue]
  refine ⟨r.vectorSearched_eq_ok_iff, r.vectorSearched_eq_refused_iff, ?_,
    r.surfaces_vectorSearched_iff⟩
  intro τ b' state' answers' hanswers' hhead
  rw [(r.exchanges_vectorSearch b' state' hv).2, hanswers']
  exact r.vectorSearched_congr hhead

end answers

/-- A service that gives certain answers to a search for several. -/
def answering (answers : List Json) : Backend Unit
  | .multiSearch _ => pure (.ok answers)
  | _ => pure (.error .notFound)

/-- A failure that is told as a text is returned as one, whatever else is answered. -/
theorem surfaces_vectorSearch_iff_text :
    let v : VectorSearch := { field := "embedding", vector := [] }
    let answers : List Json := [.object [("error", .string "Not found.")], .object []]
    vectorProducts.schema.HoldsVectors v.field ∧
      ((answering answers (.multiSearch [vectorProducts.vectorRequest v])).run ()).1 =
        .ok answers ∧
      (vectorProducts.vectorSearch v).run.value (answering answers) () =
        .error (.backend (.refused "Not found.")) ∧
      vectorProducts.Surfaces answers
        ((vectorProducts.vectorSearch v).run.value (answering answers) ()) := by
  intro v answers
  have hv : vectorProducts.schema.HoldsVectors v.field := by
    rw [← CollectionSchema.mem_vectors_iff]
    decide
  obtain ⟨-, hrefused, -, hsurfaces⟩ :=
    vectorProducts.surfaces_vectorSearch_iff (answering answers) () hv rfl
  refine ⟨hv, rfl, (hrefused _).mpr (.inr ⟨_, rfl, rfl⟩), hsurfaces.mpr ?_⟩
  rintro first told ⟨⟩ ⟨⟩
  exact .inr ⟨_, rfl⟩

/-- **A failure is read as an answer without hits** if it is told as an object. -/
theorem failure_read_as_no_hits :
    let v : VectorSearch := { field := "embedding", vector := [] }
    let told : Json := .object [("message", .string "Field not found.")]
    let answers : List Json := [.object [("code", .ofUInt32 404), ("error", told)]]
    (vectorProducts.vectorQuery v).check vectorProducts.schema = .ok () ∧
      (vectorProducts.vectorSearch v).run.value (answering answers) () =
        .ok ⟨0, 0, 0, [], none, 0⟩ ∧
      ¬ vectorProducts.Surfaces answers
        ((vectorProducts.vectorSearch v).run.value (answering answers) ()) := by
  intro v told answers
  have hvalue : (vectorProducts.vectorSearch v).run.value (answering answers) () =
      .ok ⟨0, 0, 0, [], none, 0⟩ := rfl
  refine ⟨rfl, hvalue, fun h => ?_⟩
  obtain ⟨reason, hrefused⟩ := h.failed _ told rfl rfl nofun
  rw [hvalue] at hrefused
  cases hrefused

end Repository
end CollectionSearch
