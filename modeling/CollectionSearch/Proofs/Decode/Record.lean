import CollectionSearch.Decode.Record
import CollectionSearch.Proofs.Ordered

/-!
# Records that were written

A record is read back from an object that gives a value for some of its parts and leaves out the
others, whatever the order in which such objects are judged. What is written for a record is put
together like the record itself: part by part.

* `Record.Reads` : whether what is written for the parts of a record is read as a value.
* `Record.Reads.pure`, `Record.Reads.seq`, `Record.Reads.required`, `Record.Reads.defaulted`,
  `Record.Reads.nullable`, `Record.Reads.optional` : the ways of writing a record.
* `Record.Gives` : whether members of an object give what is written, in any order.

**Main statements:** `Record.Reads.decode_object` says that a record is read from members that give
what is written, `Record.Reads.decodeOpen_object` that members that are no parts are kept.
`Record.Reads.decode_ofPresent` and `Record.Reads.decodeOpen_append` speak of the object of what is
written. `Record.decodeOpen_eq_ok_iff` says what is read from any object.
-/

namespace CollectionSearch

/-! ## Members that are present -/

namespace Json

/-- The members that are present are those that have a value. -/
theorem mem_present_iff {written : List (String × Option Json)} {name : String} {v : Json} :
    (name, v) ∈ present written ↔ (name, some v) ∈ written := by
  rw [present, List.mem_filterMap]
  constructor
  · rintro ⟨⟨name, o⟩, hmem, heq⟩
    obtain ⟨v, rfl, hv⟩ := Option.map_eq_some_iff.mp heq
    cases hv
    exact hmem
  · intro hmem
    exact ⟨_, hmem, rfl⟩

/-- Their names stand in the order of what is written. -/
theorem names_present_sublist : (written : List (String × Option Json)) →
    ((present written).map Prod.fst).Sublist (written.map Prod.fst)
  | [] => List.Sublist.slnil
  | (name, none) :: rest => (names_present_sublist rest).cons name
  | (name, some _) :: rest => (names_present_sublist rest).cons_cons name

/-- What is written for a value that may be missing. -/
def ofOption {α : Type} (encode : α → Json) : Option α → Json
  | none => null
  | some a => encode a

/-- Members with new and distinct names are written after the others. -/
theorem overlay_eq_append {members others : List (String × Json)}
    (h : (members ++ others).map Prod.fst |>.Nodup) : overlay members others = members ++ others :=
  foldl_setEntry_of_nodup others members h

end Json

namespace Record

variable {α β : Type}

/-! ## Judging members -/

/-- Members with distinct names are in order when each is a part that takes its value, or no part
and in order. -/
theorem judge_eq_ok {r : Record Json α} {other : Member Json → Option DecodeError} :
    {seen : List String} → {members : List (String × Json)} →
      (∀ m ∈ members, m.1 ∉ seen) → (members.map Prod.fst).Nodup →
      (∀ m ∈ members, (∃ p, r.part? m.1 = some p ∧ p.refuse m.2 = none) ∨
        (r.part? m.1 = none ∧ other ⟨m.1, m.2, none⟩ = none)) →
      r.judge other seen (members.map fun m => ⟨m.1, m.2, none⟩) = .ok ()
  | _, [], _, _, _ => rfl
  | seen, (name, v) :: rest, hnew, hnodup, hmembers => by
      obtain ⟨hname, hrest⟩ := List.nodup_cons.mp hnodup
      obtain ⟨hseen, hnewrest⟩ := List.forall_mem_cons.mp hnew
      obtain ⟨hfirst, hothers⟩ := List.forall_mem_cons.mp hmembers
      rw [List.map_cons, judge]
      rcases hfirst with ⟨p, hpart, hrefuse⟩ | ⟨hpart, hother⟩
      · simp only [hpart, if_neg hseen, hrefuse]
        refine judge_eq_ok (fun m hm => ?_) hrest hothers
        rw [List.mem_cons, not_or]
        exact ⟨fun heq => hname (List.mem_map.mpr ⟨m, hm, heq⟩), hnewrest m hm⟩
      · simp only [hpart, hother]
        exact judge_eq_ok hnewrest hrest hothers

/-! ## Making values -/

section build

variable (find : String → Except DecodeError (Option Json)) (absent : String → DecodeError)

theorem build_seq (f : Record Json (α → β)) (x : Record Json α) :
    (f <*> x).build find absent =
      f.build find absent >>= fun g => x.build find absent >>= fun a => .ok (g a) := rfl

theorem build_map (g : α → β) (x : Record Json α) :
    (g <$> x).build find absent = x.build find absent >>= fun a => .ok (g a) := rfl

theorem build_defaulted (name : String) (fallback : α) (decode : Decoder Json α) :
    (Record.defaulted name fallback decode).build find absent =
      find name >>= fun w => w.elim (.ok fallback) decode := by
  refine bind_congr fun w => ?_
  cases w <;> rfl

end build

/-! ## What is written for a record -/

/-- Whether a part takes what is written under its name, if something is. -/
def Takes (p : Part Json) (e : String × Option Json) : Prop :=
  p.name = e.1 ∧ ∀ v, e.2 = some v → p.refuse v = none

/-- Whether what is written, one after the other for the parts of a record, is read as a value: no
part refuses what stands for it, and the value is made from all of it. -/
structure Reads (r : Record Json α) (written : List (String × Option Json)) (a : α) : Prop where
  /-- The parts take what is written for them. -/
  parts : List.Forall₂ Takes r.parts written
  /-- The value is made from what is written. -/
  build : ∀ find absent, (∀ e ∈ written, find e.1 = .ok e.2) → r.build find absent = .ok a

namespace Reads

/-- Nothing is written for no parts. -/
theorem pure (a : α) : Reads (Pure.pure a : Record Json α) [] a := ⟨.nil, fun _ _ _ => rfl⟩

/-- What is written for two records is written for both together. -/
theorem seq {f : Record Json (α → β)} {x : Record Json α} {g : α → β} {a : α}
    {written others : List (String × Option Json)} (hf : Reads f written g)
    (hx : Reads x others a) : Reads (f <*> x) (written ++ others) (g a) := by
  refine ⟨List.rel_append hf.parts hx.parts, ?_⟩
  intro find absent hfind
  obtain ⟨hwritten, hothers⟩ := List.forall_mem_append.mp hfind
  rw [build_seq, hf.build find absent hwritten, hx.build find absent hothers]
  rfl

/-- What is written for a record is written for each value that is made from it. -/
theorem map {x : Record Json α} {a : α} {written : List (String × Option Json)} (g : α → β)
    (hx : Reads x written a) : Reads (g <$> x) written (g a) := (pure g).seq hx

/-- A part that must be there is written as it is read. -/
theorem required {name : String} {decode : Decoder Json α} {v : Json} {a : α}
    (h : decode v = .ok a) : Reads (Record.required name decode) [(name, some v)] a := by
  refine ⟨.cons ⟨rfl, ?_⟩ .nil, ?_⟩
  · rintro _ ⟨⟩
    exact congrArg errorOf h
  · intro find absent hfind
    have hname : find name = .ok (some v) := hfind _ List.mem_cons_self
    show (find name >>= _) = _
    rw [hname]
    exact h

/-- What is not `null` is read as without the choice of `null`. -/
theorem decodeNullable_of_ne_null {decode : Decoder Json α} {j : Json} (h : j ≠ .null) :
    decodeNullable decode j = (decode j).map some := by
  cases j with
  | null => exact absurd rfl h
  | _ => rfl

/-- A part with a value of its own is written as it is read, or left out. -/
theorem defaulted {name : String} {fallback : α} {decode : Decoder Json α} {w : Option Json}
    {a : α} (h : w.elim (.ok fallback) decode = .ok a) :
    Reads (Record.defaulted name fallback decode) [(name, w)] a := by
  refine ⟨.cons ⟨rfl, ?_⟩ .nil, ?_⟩
  · rintro v rfl
    exact congrArg errorOf h
  · intro find absent hfind
    have hname : find name = .ok w := hfind _ List.mem_cons_self
    rw [build_defaulted, hname]
    exact h

/-- A part that may be missing is read as what is read of its value, which is not written as `null`.
If it is not set it is `null` or left out. -/
theorem nullable_map {name : String} {decode : Decoder Json β} {encode : α → Json} {read : α → β}
    {o : Option α} {w : Option Json}
    (hw : w = some (Json.ofOption encode o) ∨ w = none ∧ Json.ofOption encode o = .null)
    (h : ∀ a, o = some a → decode (encode a) = .ok (read a) ∧ encode a ≠ .null) :
    Reads (Record.optional name decode) [(name, w)] (o.map read) := by
  refine defaulted ?_
  rcases o with _ | a
  · rcases hw with rfl | ⟨rfl, -⟩ <;> rfl
  · obtain ⟨hdecode, hnull⟩ := h a rfl
    rcases hw with rfl | ⟨-, hnone⟩
    · show decodeNullable decode (encode a) = _
      rw [decodeNullable_of_ne_null hnull, hdecode]
      rfl
    · exact absurd hnone hnull

/-- A part that may be missing is written as it is read and not as `null`. If it is not set it is
`null` or left out. -/
theorem nullable {name : String} {decode : Decoder Json α} {encode : α → Json} {o : Option α}
    {w : Option Json}
    (hw : w = some (Json.ofOption encode o) ∨ w = none ∧ Json.ofOption encode o = .null)
    (h : ∀ a, o = some a → decode (encode a) = .ok a ∧ encode a ≠ .null) :
    Reads (Record.optional name decode) [(name, w)] o := by
  have hreads : Reads (Record.optional name decode) [(name, w)] (o.map id) := nullable_map hw h
  rwa [Option.map_id_apply] at hreads

/-- A part that may be missing is left out, or written as it is read and not as `null`. -/
theorem optional {name : String} {decode : Decoder Json α} {encode : α → Json} {o : Option α}
    (h : ∀ a, o = some a → decode (encode a) = .ok a ∧ encode a ≠ .null) :
    Reads (Record.optional name decode) [(name, o.map encode)] o := by
  refine nullable ?_ h
  cases o with
  | none => exact .inr ⟨rfl, rfl⟩
  | some a => exact .inl rfl

end Reads

/-! ## Reading what is written -/

/-- Under a name that is not written there is no part. -/
theorem find?_part_of_not_mem {name : String} :
    {parts : List (Part Json)} → {written : List (String × Option Json)} →
      List.Forall₂ Takes parts written → name ∉ written.map Prod.fst →
      (parts.find? fun p => p.name = name) = none
  | _, _, .nil, _ => rfl
  | p :: _, _ :: _, .cons hp hrest, hname => by
      rw [List.map_cons, List.mem_cons, not_or, ← hp.1] at hname
      rw [List.find?_cons_of_neg (by simpa using Ne.symm hname.1)]
      exact find?_part_of_not_mem hrest hname.2

/-- Under a name that is written there is a part that takes what is written. -/
theorem exists_find?_part {name : String} {v : Json} :
    {parts : List (Part Json)} → {written : List (String × Option Json)} →
      List.Forall₂ Takes parts written → (written.map Prod.fst).Nodup → (name, some v) ∈ written →
      ∃ p, (parts.find? fun p => p.name = name) = some p ∧ p.refuse v = none
  | _, _, .nil, _, hmem => absurd hmem List.not_mem_nil
  | p :: _, e :: _, .cons hp hrest, hnodup, hmem => by
      rw [List.map_cons, List.nodup_cons] at hnodup
      rcases List.mem_cons.mp hmem with rfl | hmem
      · exact ⟨p, List.find?_cons_of_pos (decide_eq_true hp.1), hp.2 v rfl⟩
      · have hne : p.name ≠ name := by
          rintro rfl
          exact hnodup.1 (hp.1 ▸ List.mem_map_of_mem hmem)
        rw [List.find?_cons_of_neg (by simpa using hne)]
        exact exists_find?_part hrest hnodup.2 hmem

/-- Exactly the names of parts have a part. -/
theorem isNone_part?_iff {r : Record Json α} {name : String} :
    (r.part? name).isNone = true ↔ name ∉ r.parts.map Part.name := by
  rw [part?, Option.isNone_iff_eq_none, List.find?_eq_none, List.mem_map]
  simp

/-- The members of an object under view. -/
def shown (members : List (String × Json)) : List (Member Json) :=
  members.map fun m => ⟨m.1, m.2, none⟩

/-- What is found among members under view is what the object has there. -/
theorem findMember_shown (members : List (String × Json)) (name : String) :
    findMember (shown members) name = (Json.object members).get? name := by
  rw [findMember, shown, List.find?_map, Option.map_map]
  rfl

/-- Members that are no parts are kept with their values. -/
theorem mapM_others (r : Record Json α) (members : List (String × Json)) :
    ((shown members).filter fun m => (r.part? m.name).isNone).mapM
        (fun m => do return (m.name, ← decodeJson m.value) :
          Member Json → Except DecodeError (String × Json)) =
      .ok (members.filter fun m => (r.part? m.1).isNone) := by
  have hfilter : ((shown members).filter fun m => (r.part? m.name).isNone) =
      shown (members.filter fun m => (r.part? m.1).isNone) := by
    rw [shown, List.filter_map]
    rfl
  have hpairs : (shown (members.filter fun m => (r.part? m.1).isNone)).mapM
      (fun m => do return (m.name, ← decodeJson m.value) :
        Member Json → Except DecodeError (String × Json)) =
      .ok ((members.filter fun m => (r.part? m.1).isNone).map id) :=
    mapM_map_of_forall fun _ _ => rfl
  rw [hfilter, hpairs, List.map_id]

/-- An object is read together with the members that are no parts when the members are in order and
the value is made from them. -/
theorem decodeOpen_eq_ok_iff {r : Record Json α} {name : String}
    {members : List (String × Json)} {a : α} {extra : OrderedMap String Json} :
    r.decodeOpen name (.object members) = .ok (a, extra) ↔
      r.judge (fun m => errorOf (decodeJson m.value)) [] (shown members) = .ok () ∧
        r.build (fun part => .ok ((Json.object members).get? part)) .missingField = .ok a ∧
        .ofList (members.filter fun m => (r.part? m.1).isNone) = extra := by
  have hfind : (fun part => .ok (findMember (shown members) part)) =
      (fun part => .ok ((Json.object members).get? part) : String → Except DecodeError _) :=
    funext fun part => congrArg Except.ok (findMember_shown members part)
  have hread : r.decodeOpen name (.object members) = (do
      r.judge (fun m => errorOf (decodeJson m.value)) [] (shown members)
      let b ← r.build (fun part => .ok (findMember (shown members) part)) .missingField
      let others ← ((shown members).filter fun m => (r.part? m.name).isNone).mapM fun m => do
        return (m.name, ← decodeJson m.value)
      return (b, .ofList others)) := rfl
  rw [hread, mapM_others, hfind]
  generalize r.judge (fun m => errorOf (decodeJson m.value)) [] (shown members) = judged
  generalize r.build (fun part => .ok ((Json.object members).get? part)) .missingField = built
  rcases judged with e | ⟨⟨⟩⟩
  · exact iff_of_false (fun h => nomatch h) (fun h => nomatch h.1)
  · rcases built with e | b
    · exact iff_of_false (fun h => nomatch h) (fun h => nomatch h.2.1)
    · simp [bind, Except.bind, pure, Except.pure]

/-- Whether members give what is written for the parts of a record: each under its name, in any
order and among others. -/
structure Gives (members : List (String × Json)) (written : List (String × Option Json)) :
    Prop where
  /-- No name stands twice. -/
  distinct : (members.map Prod.fst).Nodup
  /-- Under each name stands what is written for it. -/
  found : ∀ e ∈ written, (Json.object members).get? e.1 = e.2

namespace Reads

variable {r : Record Json α} {written : List (String × Option Json)} {a : α}
  {members : List (String × Json)} (h : Reads r written a)
  (hnodup : (written.map Prod.fst).Nodup) (hg : Gives members written)

include h

/-- The parts have the names that are written. -/
theorem names_parts : r.parts.map Part.name = written.map Prod.fst := by
  have hnames : List.Forall₂ (fun p e => p.name = e.1) r.parts written :=
    h.parts.imp fun _ _ htakes => htakes.1
  rw [← List.forall₂_eq_eq_eq, List.forall₂_map_left_iff, List.forall₂_map_right_iff]
  exact hnames

include hg in
/-- The value is made from what is found among the members. -/
theorem build_of_gives :
    r.build (fun part => .ok ((Json.object members).get? part)) .missingField = .ok a :=
  h.build _ _ fun e he => congrArg Except.ok (hg.found e he)

include hnodup hg in
/-- The members are in order when those that are no parts are. -/
theorem judge_of_gives {other : Member Json → Option DecodeError}
    (hother : ∀ m ∈ members, other ⟨m.1, m.2, none⟩ = none) :
    r.judge other [] (shown members) = .ok () := by
  refine judge_eq_ok (fun _ _ => List.not_mem_nil) hg.distinct fun m hm => ?_
  by_cases hname : m.1 ∈ written.map Prod.fst
  · obtain ⟨⟨name, o⟩, he, rfl⟩ := List.mem_map.mp hname
    have ho : o = some m.2 :=
      (hg.found _ he).symm.trans ((find?_key_eq_some_iff hg.distinct).mpr hm)
    exact .inl (exists_find?_part h.parts hnodup (ho ▸ he))
  · exact .inr ⟨find?_part_of_not_mem h.parts hname, hother m hm⟩

include hnodup hg in
/-- **A record is read from members that give what is written**, whatever else stands there. -/
theorem decode_object (name : String) : r.decode name (.object members) = .ok a := by
  have hjudge : r.judge (fun m => m.passing.map .unreadable) [] (shown members) = .ok () :=
    h.judge_of_gives hnodup hg fun _ _ => rfl
  have hbuild := h.build_of_gives hg
  simp only [← findMember_shown] at hbuild
  unfold shown at hjudge hbuild
  simp only [decode, Json.source_view, Json.view, hjudge, hbuild, orBreach]
  rfl

include hnodup hg in
/-- **An open record is read from members that give what is written**; all others are kept, in
order. -/
theorem decodeOpen_object (name : String) :
    r.decodeOpen name (.object members) =
      .ok (a, .ofList (members.filter fun m => m.1 ∉ written.map Prod.fst)) := by
  have hparts : (fun m : String × Json => (r.part? m.1).isNone) =
      fun m => decide (m.1 ∉ written.map Prod.fst) := by
    funext m
    rw [Bool.eq_iff_iff, isNone_part?_iff, h.names_parts, decide_eq_true_iff]
  rw [decodeOpen_eq_ok_iff, hparts]
  exact ⟨h.judge_of_gives hnodup hg fun _ _ => rfl, h.build_of_gives hg, rfl⟩

end Reads

/-! ## Objects of what is written -/

section append

variable {written : List (String × Option Json)} (hnodup : (written.map Prod.fst).Nodup)
  {extra : OrderedMap String Json} (hnew : ∀ k ∈ extra.keys, k ∉ written.map Prod.fst)

include hnew

/-- The members that are not written are the extra ones. -/
theorem filter_present_append :
    ((Json.present written ++ extra.entries).filter fun m => m.1 ∉ written.map Prod.fst) =
      extra.entries := by
  have hwritten : ∀ m ∈ Json.present written, ¬ decide (m.1 ∉ written.map Prod.fst) = true := by
    intro m hm
    have hname : m.1 ∈ written.map Prod.fst :=
      (Json.names_present_sublist written).subset (List.mem_map_of_mem hm)
    simpa using hname
  have hothers : ∀ m ∈ extra.entries, decide (m.1 ∉ written.map Prod.fst) = true := fun m hm =>
    decide_eq_true (hnew m.1 (List.mem_map_of_mem hm))
  rw [List.filter_append, List.filter_eq_nil_iff.mpr hwritten, List.filter_eq_self.mpr hothers,
    List.nil_append]

include hnodup

/-- With extra members under other names no name stands twice. -/
theorem nodup_present_append : ((Json.present written ++ extra.entries).map Prod.fst).Nodup := by
  rw [List.map_append, List.nodup_append]
  refine ⟨hnodup.sublist (Json.names_present_sublist written), extra.distinct, ?_⟩
  rintro name hname _ hmem rfl
  exact hnew name hmem ((Json.names_present_sublist written).subset hname)

/-- Among the members stands what is written, and nothing stands for what is left out. -/
theorem gives_present_append : Gives (Json.present written ++ extra.entries) written where
  distinct := nodup_present_append hnodup hnew
  found e he := by
    refine Option.ext fun v => ?_
    have hextra : (e.1, v) ∉ extra.entries := fun hmem =>
      hnew e.1 (List.mem_map.mpr ⟨_, hmem, rfl⟩) (List.mem_map_of_mem he)
    rw [Json.get?_object, find?_key_eq_some_iff (nodup_present_append hnodup hnew),
      List.mem_append, or_iff_left hextra, Json.mem_present_iff]
    constructor
    · intro hmem
      exact congrArg Prod.snd (List.inj_on_of_nodup_map hnodup he hmem rfl)
    · intro hv
      exact hv ▸ he

/-- **Members under other names are kept when a record is read**, with their values and in
order. -/
theorem Reads.decodeOpen_append {r : Record Json α} {a : α} (h : Reads r written a)
    (name : String) :
    r.decodeOpen name (.object (Json.present written ++ extra.entries)) = .ok (a, extra) := by
  rw [h.decodeOpen_object hnodup (gives_present_append hnodup hnew),
    filter_present_append hnew, extra.ofList_entries]

end append

/-- **A record is read back from the object of what is written.** -/
theorem Reads.decode_ofPresent {r : Record Json α} {written : List (String × Option Json)} {a : α}
    (h : Reads r written a) (hnodup : (written.map Prod.fst).Nodup)
    (name : String) : r.decode name (Json.ofPresent written) = .ok a := by
  have hnew : ∀ k ∈ (OrderedMap.empty : OrderedMap String Json).keys, k ∉ written.map Prod.fst :=
    List.forall_mem_nil _
  have hg : Gives (Json.present written ++ []) written := gives_present_append hnodup hnew
  rw [List.append_nil] at hg
  exact h.decode_object hnodup hg name

end Record

end CollectionSearch
