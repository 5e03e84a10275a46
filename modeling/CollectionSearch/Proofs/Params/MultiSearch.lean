import CollectionSearch.Proofs.Criteria.Overrides
import CollectionSearch.Repository.Searches

/-!
# The collection of a search among several

One search of a request for several names its collection beside its parameters, in one object. No
known parameter has the name `collection`, but a free parameter may have it, and is then sent in
place of the name of the collection.

* `Json.without` : an object without the members of a name.
* `MultiSearchRequest.KeepsTarget` : whether the collection is sent, and the parameters beside it.

**Main statements:** `keepsTarget_iff` says what is sent, and that exactly a free parameter of that
name takes the place of the collection. `keepsTarget_vectorRequest` says that a search by vector has
none, and `not_keepsTarget_orders` shows a request that has.
-/

namespace CollectionSearch

/-! ## A member in front of others -/

namespace Json

/-- An object without the members of a name, and every other value as it is. -/
def without (j : Json) (name : String) : Json :=
  match j with
  | object members => object (members.filter fun m => m.1 ≠ name)
  | j => j

@[simp] theorem without_object (members : List (String × Json)) (name : String) :
    (object members).without name = object (members.filter fun m => m.1 ≠ name) := rfl

/-- Members written over one in front. -/
theorem overlay_singleton {members : List (String × Json)} (h : (members.map Prod.fst).Nodup)
    (name : String) (v : Json) :
    overlay [(name, v)] members =
      (name, ((object members).get? name).getD v) :: members.filter fun m => m.1 ≠ name := by
  unfold overlay
  rw [foldl_setEntry_cons name members h, get?_object]
  refine congrArg _ ?_
  exact foldl_setEntry_of_nodup _ [] (nodup_keys_filter h _)

/-- An object has no member of a name exactly if it is the same without it. -/
theorem without_eq_self_iff (members : List (String × Json)) (name : String) :
    (object members).without name = object members ↔ name ∉ members.map Prod.fst := by
  rw [without_object, object.injEq, filter_key_eq_self_iff]

end Json

/-! ## Requests -/

namespace MultiSearchRequest

variable (r : MultiSearchRequest)

/-- Whether a request names its collection and is else made of its parameters. -/
@[mk_iff keepsTarget_def]
structure KeepsTarget : Prop where
  /-- The collection is named. -/
  target : r.toJson.get? "collection" = some (.string r.collection)
  /-- The rest are the parameters. -/
  rest : r.toJson.without "collection" = r.params.toJson

/-- What is found among the parameters under that name is a free one. -/
theorem get?_params_collection :
    r.params.toJson.get? "collection" = r.params.extra.get? "collection" := by
  have hname : ¬ SearchParam.IsName "collection" := by decide
  rw [r.params.get?_toJson_eq_or, SearchParams.get?_members_of_not_isName _ hname, Option.or_none]

/-- The collection stands in front, or a free parameter of that name. -/
theorem toJson_eq :
    r.toJson =
      .object (("collection", (r.params.extra.get? "collection").getD (.string r.collection)) ::
        r.params.members.filter fun m => m.1 ≠ "collection") := by
  rw [toJson, Json.overlay_singleton r.params.nodup_members, ← get?_params_collection]
  rfl

theorem get?_toJson_collection :
    r.toJson.get? "collection" =
      some ((r.params.extra.get? "collection").getD (.string r.collection)) := by
  rw [toJson_eq, Json.get?_object, List.find?_cons_of_pos (by simp), Option.map_some]

/-- Under other names the parameters are found. -/
theorem get?_toJson_of_ne {name : String} (h : name ≠ "collection") :
    r.toJson.get? name = r.params.toJson.get? name := by
  have hsplit : r.toJson.get? name =
      (r.params.toJson.get? name).or
        ((Json.object [("collection", .string r.collection)]).get? name) :=
    find?_foldl_setEntry name r.params.members r.params.nodup_members _
  rw [hsplit, Json.get?_object, List.find?_cons_of_neg (by simpa using Ne.symm h), List.find?_nil,
    Option.map_none, Option.or_none]

/-- Without it the parameters are left, less that one. -/
theorem without_toJson :
    r.toJson.without "collection" = r.params.toJson.without "collection" := by
  rw [toJson_eq, Json.without_object, List.filter_cons_of_neg (by simp), List.filter_filter]
  simp only [Bool.and_self]
  rfl

/-- The parameters are complete without it exactly if no free one has that name. -/
theorem without_toJson_eq_params_iff :
    r.toJson.without "collection" = r.params.toJson ↔ "collection" ∉ r.params.extra.keys := by
  have hfound : r.params.toJson.get? "collection" = none ↔
      "collection" ∉ r.params.members.map Prod.fst :=
    Json.get?_object_eq_none_iff r.params.members "collection"
  rw [without_toJson, SearchParams.toJson, Json.without_eq_self_iff, ← hfound,
    get?_params_collection, OrderedMap.get?_eq_none_iff]

/-- Only a free parameter of that name stands against the collection. -/
theorem keepsTarget_iff_not_mem : r.KeepsTarget ↔ "collection" ∉ r.params.extra.keys := by
  rw [keepsTarget_def, without_toJson_eq_params_iff, get?_toJson_collection]
  refine and_iff_right_of_imp fun h => ?_
  rw [r.params.extra.get?_eq_none_iff.mpr h, Option.getD_none]

/-- A request of a search by vector has no free parameters. -/
theorem keepsTarget_vectorRequest {D : Type} (r : Repository D) (s : VectorSearch) :
    (r.vectorRequest s).KeepsTarget :=
  (keepsTarget_iff_not_mem _).mpr List.not_mem_nil

/-- **A request names its collection unless a free parameter of that name says otherwise.** That
name apart it is made of its parameters, and of all of them exactly if no free one has the name. -/
theorem keepsTarget_iff (r : MultiSearchRequest) :
    r.toJson.get? "collection" =
      some ((r.params.extra.get? "collection").getD (.string r.collection)) ∧
    r.toJson.without "collection" = r.params.toJson.without "collection" ∧
    (r.KeepsTarget ↔ "collection" ∉ r.params.extra.keys) :=
  ⟨r.get?_toJson_collection, r.without_toJson, r.keepsTarget_iff_not_mem⟩

/-- A free parameter takes the place of the collection that is searched, and is lost among the
parameters. -/
theorem not_keepsTarget_orders :
    let r : MultiSearchRequest :=
      { collection := "products"
        params :=
          { known := KnownParams.empty.write .q (some "*")
            extra := OrderedMap.empty.insert "collection" (.string "orders") } }
    r.toJson.get? "collection" = some (.string "orders") ∧
      r.toJson = .object [("collection", .string "orders"), ("q", .string "*")] ∧
      ¬ r.KeepsTarget := by
  intro r
  have hget : r.toJson.get? "collection" = some (.string "orders") := rfl
  refine ⟨hget, rfl, fun h => ?_⟩
  have heq := hget.symm.trans h.target
  simp [r] at heq

end MultiSearchRequest

end CollectionSearch
