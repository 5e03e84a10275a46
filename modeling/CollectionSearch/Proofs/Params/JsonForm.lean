import CollectionSearch.Proofs.Decode.Record
import CollectionSearch.Proofs.Except
import CollectionSearch.Proofs.Params.Wire

/-!
# The JSON form of search parameters

Known and free parameters share one object. Reading tells them apart by their names alone, so that
what is written is read back, and what was read is written again, the known parameters in front.

* `SearchParam.IsName` : whether a name is that of a known parameter.
* `SearchParams.Plain` : whether no free parameter has such a name.
* `freeMembers`, `setMembers` : the members of an object that are free parameters, and those that
  set a known one. The rest sets a known one to `null`, which is not to set it.

**Main statements:** `SearchParams.decode_toJson` reads back what was written. What was read is
written again by `SearchParams.entries_extra_of_decode` and `SearchParams.perm_members_of_decode`,
and `toJson_decode_inverse` puts the two directions together.
-/

namespace CollectionSearch

/-! ## Names -/

/-- Whether a name is that of a known parameter. -/
def SearchParam.IsName (name : String) : Prop := name ∈ all.map SearchParam.name

instance SearchParam.decidableIsName (name : String) : Decidable (IsName name) :=
  List.instDecidableMemOfLawfulBEq ..

theorem SearchParam.isName_name (p : SearchParam) : IsName p.name := List.mem_map_of_mem p.mem_all

theorem SearchParam.nodup_names : (all.map SearchParam.name).Nodup :=
  nodup_all.map fun _ _ h => name_injective h

/-- Whether no free parameter has the name of a known one. -/
def SearchParams.Plain (params : SearchParams) : Prop :=
  ∀ name ∈ params.extra.keys, ¬ SearchParam.IsName name

instance SearchParams.decidablePlain (params : SearchParams) : Decidable params.Plain := by
  unfold SearchParams.Plain
  infer_instance

/-- The members that are free parameters. -/
def freeMembers (members : List (String × Json)) : List (String × Json) :=
  members.filter fun m => ¬ SearchParam.IsName m.1

/-- Whether a value is `null`. -/
def Json.isNull : Json → Bool
  | null => true
  | _ => false

/-- The members that set a known parameter. -/
def setMembers (members : List (String × Json)) : List (String × Json) :=
  members.filter fun m => SearchParam.IsName m.1 ∧ ¬ m.2.isNull

/-! ## Values of known parameters -/

/-- A whole number is an unsigned word exactly when the word is written so. -/
theorem Whole.toUInt32?_eq_some_iff {n : Whole} {w : UInt32} :
    n.toUInt32? = some w ↔ ofUInt32 w = n := by
  constructor
  · intro h
    rw [toUInt32?, Option.ite_none_right_eq_some] at h
    obtain ⟨⟨hge, hlt⟩, ⟨⟩⟩ := h
    have hsize : n.val.toNat < UInt32.size := (Int.toNat_lt hge).mpr hlt
    refine Whole.ext ?_
    show ((UInt32.ofNat n.val.toNat).toNat : Int) = n.val
    rw [UInt32.toNat_ofNat_of_lt' hsize]
    exact Int.toNat_of_nonneg hge
  · rintro rfl
    exact toUInt32?_ofUInt32 w

namespace ParamKind

variable (k : ParamKind)

/-- A value is read back. -/
theorem decode_toJson (v : k.Value) : k.decode (k.toJson v) = .ok v := by
  cases k with
  | text => exact decodeString_string v
  | count => exact decodeUInt32_ofUInt32 v
  | flag => exact decodeBool_bool v

theorem toJson_ne_null (v : k.Value) : k.toJson v ≠ .null := by
  cases k <;> nofun

/-- What is read as a value is what is written for it. -/
theorem toJson_of_decode {j : Json} {v : k.Value} (h : k.decode j = .ok v) : k.toJson v = j := by
  cases k with
  | text =>
      cases j <;> cases h
      rfl
  | count =>
      cases j with
      | whole n =>
          rcases hn : n.toUInt32? with _ | w
          · simp only [decode, decodeUInt32, decodeWhole, Json.source_view, Json.view, hn] at h
            cases h
          · rw [decode, decodeUInt32, decodeWhole_whole hn] at h
            cases h
            exact congrArg Json.whole (Whole.toUInt32?_eq_some_iff.mp hn)
      | _ => cases h
  | flag =>
      cases j <;> cases h
      rfl

end ParamKind

/-! ## Known parameters -/

namespace KnownParams

variable (known : KnownParams)

/-- What is written for some of the known parameters. -/
def written (l : List SearchParam) : List (String × Option Json) :=
  l.map fun p => (p.name, (known p).map p.kind.toJson)

/-- Some of the known parameters, and no others. -/
def restrict : List SearchParam → KnownParams
  | [] => empty
  | p :: rest => (restrict rest).write p (known p)

theorem restrict_of_mem {p : SearchParam} :
    {l : List SearchParam} → p ∈ l → known.restrict l p = known p
  | first :: rest, h => by
      by_cases hfirst : first = p
      · subst hfirst
        exact write_self _ _ _
      · have hrest : p ∈ rest := (List.mem_cons.mp h).resolve_left (Ne.symm hfirst)
        exact (write_of_ne _ _ hfirst).trans (restrict_of_mem hrest)

@[simp] theorem restrict_all : known.restrict SearchParam.all = known :=
  funext fun p => restrict_of_mem known p.mem_all

theorem names_written (l : List SearchParam) :
    (known.written l).map Prod.fst = l.map SearchParam.name := by
  rw [written, List.map_map]
  rfl

theorem present_written_all : Json.present (known.written SearchParam.all) = known.members := by
  rw [Json.present, written, List.filterMap_map, members]
  refine List.filterMap_congr fun p _ => ?_
  rw [member?, Function.comp_apply, Option.map_map]
  rfl

/-- Known parameters are read as they are written. -/
theorem reads_recordOf : (l : List SearchParam) →
    (recordOf l : Record Json KnownParams).Reads (known.written l) (known.restrict l)
  | [] => Record.Reads.pure _
  | p :: rest =>
    ((Record.Reads.optional fun v _ => ⟨p.kind.decode_toJson v, p.kind.toJson_ne_null v⟩).map
      fun v others => write others p v).seq (reads_recordOf rest)

variable {known}

/-- Known parameters that were made from what is found under their names are what is read there. -/
theorem read_of_build_recordOf {find : String → Except DecodeError (Option Json)}
    {absent : String → DecodeError} : {l : List SearchParam} → l.Nodup → {known : KnownParams} →
      (recordOf l : Record Json KnownParams).build find absent = .ok known →
      ∀ p ∈ l, ∃ o : Option Json, find p.name = .ok o ∧
        o.elim (.ok none) (decodeNullable p.kind.decode) = .ok (known p)
  | first :: rest, hnodup, known, h, p, hp => by
      obtain ⟨hfirst, hrest⟩ := List.nodup_cons.mp hnodup
      have hbuild : ((fun v others => write others first v) <$>
          Record.optional first.name first.kind.decode <*> recordOf rest).build find absent =
            .ok known := h
      rw [Record.build_seq, Record.build_map] at hbuild
      obtain ⟨g, hg, hbuild⟩ := bind_eq_ok_iff.mp hbuild
      obtain ⟨v, hv, ⟨⟩⟩ := bind_eq_ok_iff.mp hg
      obtain ⟨others, hothers, hknown⟩ := bind_eq_ok_iff.mp hbuild
      -- a parameter is written over what the rest was read as, where it does not occur again
      have hwrite : write others first v = known := Except.ok.inj hknown
      rw [← hwrite]
      rcases List.mem_cons.mp hp with rfl | hp
      · rw [Record.optional, Record.build_defaulted] at hv
        rw [write_self]
        exact bind_eq_ok_iff.mp hv
      · have hne : first ≠ p := fun heq => hfirst (heq ▸ hp)
        rw [write_of_ne _ _ hne]
        exact read_of_build_recordOf hrest hothers p hp

/-- The names of those that are set stand in the order of all. -/
theorem names_members_sublist :
    (known.members.map Prod.fst).Sublist (SearchParam.all.map SearchParam.name) := by
  rw [← present_written_all, ← names_written known]
  exact Json.names_present_sublist _

theorem nodup_names_members : (known.members.map Prod.fst).Nodup :=
  SearchParam.nodup_names.sublist known.names_members_sublist

/-- The members for known parameters are those of the parameters that are set. -/
theorem mem_members_iff {name : String} {v : Json} :
    (name, v) ∈ known.members ↔ ∃ p, p.name = name ∧ (known p).map p.kind.toJson = some v := by
  rw [← present_written_all, Json.mem_present_iff, written, List.mem_map]
  constructor
  · rintro ⟨p, -, heq⟩
    exact ⟨p, congrArg Prod.fst heq, congrArg Prod.snd heq⟩
  · rintro ⟨p, rfl, hv⟩
    exact ⟨p, p.mem_all, congrArg (Prod.mk p.name) hv⟩

end KnownParams

/-! ## Writing and reading back -/

namespace SearchParams

variable {params : SearchParams}

/-- No name stands twice. -/
theorem nodup_members (params : SearchParams) : (params.members.map Prod.fst).Nodup :=
  nodup_foldl_setEntry params.extra.entries params.known.nodup_names_members

/-- Known parameters stand under their names only. -/
theorem Plain.not_mem_written (h : params.Plain) :
    ∀ k ∈ params.extra.keys, k ∉ (params.known.written SearchParam.all).map Prod.fst := by
  intro k hk
  rw [KnownParams.names_written]
  exact h k hk

/-- The free parameters are written after the known ones. -/
theorem Plain.members_eq (h : params.Plain) :
    params.members = params.known.members ++ params.extra.entries := by
  rw [members, ← KnownParams.present_written_all]
  refine Json.overlay_eq_append (Record.nodup_present_append ?_ h.not_mem_written)
  rw [KnownParams.names_written]
  exact SearchParam.nodup_names

/-- **Parameters are read back from their JSON form**, the free ones in their order. -/
theorem decode_toJson (h : params.Plain) : decode params.toJson = .ok params := by
  have hnodup : ((params.known.written SearchParam.all).map Prod.fst).Nodup := by
    rw [KnownParams.names_written]
    exact SearchParam.nodup_names
  have hopen := (KnownParams.reads_recordOf params.known SearchParam.all).decodeOpen_append
    hnodup h.not_mem_written "SearchParams"
  rw [KnownParams.present_written_all, KnownParams.restrict_all, ← h.members_eq] at hopen
  unfold decode
  rw [toJson, hopen]
  rfl

/-! ## Reading and writing again -/

section read

variable {o : OrderedMap String Json} (h : decode (Json.object o.entries) = .ok params)

include h

/-- What was read as parameters was read as known parameters with others beside them. -/
theorem decodeOpen_of_decode :
    (KnownParams.recordOf SearchParam.all).decodeOpen "SearchParams" (Json.object o.entries) =
      .ok (params.known, params.extra) := by
  obtain ⟨⟨known, extra⟩, hopen, ⟨⟩⟩ := bind_eq_ok_iff.mp h
  exact hopen

/-- A known parameter is set to what stands under its name, unless that is `null`. -/
theorem known_of_decode (p : SearchParam) :
    (params.known p).map p.kind.toJson = (o.get? p.name).filter fun j => !j.isNull := by
  obtain ⟨-, hbuild, -⟩ := Record.decodeOpen_eq_ok_iff.mp (decodeOpen_of_decode h)
  obtain ⟨found, hfound, hread⟩ :=
    KnownParams.read_of_build_recordOf SearchParam.nodup_all hbuild p p.mem_all
  have hget : o.get? p.name = found := Except.ok.inj hfound
  rw [hget]
  rcases found with _ | j
  · rw [← Except.ok.inj hread]
    rfl
  · by_cases hnull : j = .null
    · subst hnull
      rw [← Except.ok.inj hread]
      rfl
    · have hread : decodeNullable p.kind.decode j = .ok (params.known p) := hread
      rw [Record.Reads.decodeNullable_of_ne_null hnull] at hread
      obtain ⟨v, hv, hknown⟩ := map_eq_ok_iff.mp hread
      have hj : (!j.isNull) = true := by
        cases j <;> first | rfl | exact absurd rfl hnull
      rw [← hknown, Option.map_some, p.kind.toJson_of_decode hv, Option.filter_some, if_pos hj]

/-- The members without the name of a known parameter are the free parameters. -/
theorem entries_extra_of_decode : params.extra.entries = freeMembers o.entries := by
  obtain ⟨-, -, hextra⟩ := Record.decodeOpen_eq_ok_iff.mp (decodeOpen_of_decode h)
  have hnames : (fun m : String × Json =>
      ((KnownParams.recordOf SearchParam.all : Record Json KnownParams).part? m.1).isNone) =
        fun m => decide ¬ SearchParam.IsName m.1 := by
    funext m
    have hparts := (KnownParams.reads_recordOf params.known SearchParam.all).names_parts
    rw [Bool.eq_iff_iff, Record.isNone_part?_iff, hparts, KnownParams.names_written,
      decide_eq_true_iff]
    rfl
  have hdistinct : ((freeMembers o.entries).map Prod.fst).Nodup := nodup_keys_filter o.distinct _
  rw [← hextra, hnames]
  exact OrderedMap.entries_ofList hdistinct

/-- No free parameter that was read has the name of a known one. -/
theorem plain_of_decode : params.Plain := by
  intro name hname
  rw [OrderedMap.keys, entries_extra_of_decode h, freeMembers] at hname
  obtain ⟨m, hm, rfl⟩ := List.mem_map.mp hname
  exact of_decide_eq_true (List.mem_filter.mp hm).2

/-- The known parameters that were read are the members that set one. -/
theorem perm_members_of_decode : params.known.members.Perm (setMembers o.entries) := by
  have hknown : (params.known.members.map Prod.fst).Nodup := params.known.nodup_names_members
  have hset : ((setMembers o.entries).map Prod.fst).Nodup := nodup_keys_filter o.distinct _
  refine (List.perm_ext_iff_of_nodup hknown.of_map hset.of_map).mpr ?_
  rintro ⟨name, v⟩
  rw [KnownParams.mem_members_iff, setMembers, List.mem_filter]
  constructor
  · rintro ⟨p, rfl, hv⟩
    rw [known_of_decode h p, Option.filter_eq_some_iff] at hv
    obtain ⟨hget, hnull⟩ := hv
    refine ⟨(o.get?_eq_some_iff).mp hget, decide_eq_true ⟨p.isName_name, ?_⟩⟩
    simpa using hnull
  · rintro ⟨hmem, hsets⟩
    obtain ⟨hname, hnull⟩ := of_decide_eq_true hsets
    obtain ⟨p, -, rfl⟩ := List.mem_map.mp hname
    refine ⟨p, rfl, ?_⟩
    rw [known_of_decode h p, o.get?_eq_some_iff.mpr hmem, Option.filter_some, if_pos]
    simpa using hnull

end read

end SearchParams

/-- **Reading and writing search parameters are inverse to each other.** Parameters are read back
from their JSON form, if no free one has the name of a known one. From an object that is read as
parameters the members without such a name become the free ones, all of them and in order. Written
again it has the same members, less those that set a known parameter to `null`; the known parameters
stand in front in the order of their declaration, and the others keep theirs. -/
theorem toJson_decode_inverse :
    (∀ params : SearchParams, params.Plain → SearchParams.decode params.toJson = .ok params) ∧
    ∀ (o : OrderedMap String Json) (params : SearchParams),
      SearchParams.decode (Json.object o.entries) = .ok params →
        params.extra.entries = freeMembers o.entries ∧
        ∃ front, params.toJson = .object (front ++ freeMembers o.entries) ∧
          front.Perm (setMembers o.entries) ∧
          (front.map Prod.fst).Sublist (SearchParam.all.map SearchParam.name) := by
  refine ⟨fun params h => SearchParams.decode_toJson h, fun o params h => ?_⟩
  have hextra := SearchParams.entries_extra_of_decode h
  refine ⟨hextra, params.known.members, ?_, SearchParams.perm_members_of_decode h,
    KnownParams.names_members_sublist⟩
  rw [← hextra, SearchParams.toJson, (SearchParams.plain_of_decode h).members_eq]

/-- A free parameter is read back that is `null`. An object in which known and free parameters are
mixed is written again without the page that is `null`, and with `prefix` and `q` in front. -/
theorem toJson_decode_inverse_mixed :
    let params : SearchParams :=
      { known := KnownParams.empty.write .page (some (2 : UInt32))
        extra := OrderedMap.empty.insert "num_typos" .null }
    let o : OrderedMap String Json := .ofList
      [("num_typos", .ofUInt32 1), ("prefix", .bool true), ("page", .null),
        ("exhaustive_search", .null), ("q", .string "shoe")]
    let free : List (String × Json) := [("num_typos", .ofUInt32 1), ("exhaustive_search", .null)]
    params.Plain ∧ SearchParams.decode params.toJson = .ok params ∧
      ∃ read, SearchParams.decode (Json.object o.entries) = .ok read ∧
        read.extra.entries = free ∧
        ∃ front, read.toJson = .object (front ++ free) ∧
          front.Perm [("prefix", .bool true), ("q", .string "shoe")] ∧
          (front.map Prod.fst).Sublist (SearchParam.all.map SearchParam.name) := by
  intro params o free
  have hplain : params.Plain := by decide
  obtain ⟨read, hread⟩ : ∃ read, SearchParams.decode (Json.object o.entries) = .ok read := ⟨_, rfl⟩
  exact ⟨hplain, toJson_decode_inverse.1 params hplain, read, hread,
    toJson_decode_inverse.2 o read hread⟩

end CollectionSearch
