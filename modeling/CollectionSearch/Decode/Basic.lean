import CollectionSearch.Decode.Source

/-!
# Decoders

Decoders for strings, booleans, numbers, lists and words. A whole number is accepted where a
binary number is asked for, and never the other way round.

* `errorOf` : the error of a computation.
* `Decoder` : from what is read to a value or the first error.
* `decodeString`, `decodeBool`, `decodeUInt32`, `decodeUInt64`, `decodeSize`, `decodeDouble`,
  `decodeSingle`, `decodeNullable`, `decodeList`, `decodeJson`, `decodeWord` : the decoders.
-/

namespace CollectionSearch

/-! ## Computations that may fail -/

/-- The error of a computation, if it fails. -/
def errorOf {ε α : Type} : Except ε α → Option ε
  | .ok _ => none
  | .error e => some e

/-- A check with a condition in front succeeds when the condition does not hold and the check
succeeds. -/
theorem ite_error_eq_ok_iff {ε : Type} {p : Prop} [Decidable p] {e : ε} {x : Except ε Unit} :
    (if p then .error e else x) = .ok () ↔ ¬ p ∧ x = .ok () := by
  by_cases hp : p <;> simp [hp]

/-- One check after the other succeeds when both do. -/
theorem then_eq_ok_iff {ε : Type} {x y : Except ε Unit} :
    (x >>= fun _ => y) = .ok () ↔ x = .ok () ∧ y = .ok () := by
  rcases x with e | ⟨⟩ <;> simp [bind, Except.bind]

/-! ## Decoders -/

/-- A way to read values of a type. -/
abbrev Decoder (V : Type) (α : Type) : Type := V → Except DecodeError α

variable {V : Type} [Source V] {α : Type}

/-- Reads a string. -/
def decodeString : Decoder V String := fun v =>
  match Source.view v with
  | .string s => .ok s
  | other => .error (other.mismatch .string)

/-- Reads a boolean. -/
def decodeBool : Decoder V Bool := fun v =>
  match Source.view v with
  | .bool b => .ok b
  | other => .error (other.mismatch .boolean)

/-- Reads a whole number that a narrower type may refuse. -/
def decodeWhole (expected : Expected) (narrow : Whole → Option α) : Decoder V α := fun v =>
  match Source.view v with
  | .whole n =>
    match narrow n with
    | some a => .ok a
    | none => .error (.invalidValue (.whole n) expected)
  | other => .error (other.mismatch expected)

/-- Reads an unsigned 32-bit number. -/
def decodeUInt32 : Decoder V UInt32 := decodeWhole .uint32 Whole.toUInt32?

/-- Reads an unsigned 64-bit number. -/
def decodeUInt64 : Decoder V UInt64 := decodeWhole .uint64 Whole.toUInt64?

/-- Reads a count. -/
def decodeSize : Decoder V UInt64 := decodeWhole .size Whole.toUInt64?

/-- Reads a binary number of a format, rounding what the format cannot hold. -/
def decodeBinary (expected : Expected) (format : BinaryFormat) : Decoder V (Binary format) :=
  fun v =>
  match Source.view v with
  | .whole n => .ok (Binary.ofInt format n.val)
  | .decimal x => .ok (Binary.convert format (.finite x))
  | other => .error (other.mismatch expected)

/-- Reads a 64-bit binary number. -/
def decodeDouble : Decoder V Double := decodeBinary .double binary64

/-- Reads a 32-bit binary number. -/
def decodeSingle : Decoder V Single := decodeBinary .single binary32

/-- Reads a value that may be `null`. -/
def decodeNullable (decode : Decoder V α) : Decoder V (Option α) := fun v =>
  match Source.view v with
  | .null => .ok none
  | .broken f => .error (.unreadable f)
  | _ => (decode v).map some

/-- Reads a list; the first item that does not suit is reported. -/
def decodeList (decode : Decoder V α) : Decoder V (List α) := fun v =>
  match Source.view v with
  | .array items breach => do
    let values ← items.mapM decode
    match breach with
    | some f => .error (.unreadable f)
    | none => .ok values
  | other => .error (other.mismatch .sequence)

/-- Reads any JSON value. -/
def decodeJson : Decoder V Json := fun v => (Source.value v).mapError .unreadable

/-- Reads the members of an object with any values. -/
def decodeMembers : Decoder V (List (String × Json)) := fun v =>
  match Source.view v with
  | .object _ _ => do
    match ← decodeJson v with
    | .object members => .ok members
    | _ => .ok []
  | other => .error (other.mismatch .map)

/-- Reads one of several words, given as a string or as the only name of an object whose value is
`null`. -/
def decodeWord (known : List (String × α)) : Decoder V α := fun v =>
  let pick (name : String) : Except DecodeError α :=
    match known.find? fun w => w.1 = name with
    | some w => .ok w.2
    | none => .error (.unknownVariant name (known.map Prod.fst))
  match Source.view v with
  | .string s => pick s
  | .object [m] none => do
    let a ← pick m.name
    match Source.view m.value with
    | .null => .ok a
    | other => .error (other.mismatch .unit)
  | .object _ none => .error (.invalidValue .map .soleKey)
  | .object _ (some f) => .error (.unreadable f)
  | other => .error (other.mismatch .variant)

/-! ## Lemmas -/

@[simp] theorem decodeString_string (s : String) : decodeString (Json.string s) = .ok s := rfl

@[simp] theorem decodeBool_bool (b : Bool) : decodeBool (Json.bool b) = .ok b := rfl

theorem decodeWhole_whole {expected : Expected} {narrow : Whole → Option α} {n : Whole} {a : α}
    (h : narrow n = some a) : decodeWhole expected narrow (Json.whole n) = .ok a := by
  simp only [decodeWhole, Json.source_view, Json.view, h]

@[simp] theorem decodeUInt32_ofUInt32 (n : UInt32) : decodeUInt32 (Json.ofUInt32 n) = .ok n :=
  decodeWhole_whole (Whole.toUInt32?_ofUInt32 n)

@[simp] theorem decodeUInt64_ofUInt64 (n : UInt64) : decodeUInt64 (Json.ofUInt64 n) = .ok n :=
  decodeWhole_whole (Whole.toUInt64?_ofUInt64 n)

/-- What is found for each item is found for the list. -/
theorem mapM_map_of_forall {m : Type → Type} [Monad m] [LawfulMonad m] {α β γ : Type} {f : α → β}
    {g : β → m γ} {h : α → γ} {l : List α} (hl : ∀ a ∈ l, g (f a) = pure (h a)) :
    (l.map f).mapM g = pure (l.map h) := by
  induction l with
  | nil => rfl
  | cons a rest ih =>
      have hrest := ih fun b hb => hl b (List.mem_cons_of_mem a hb)
      rw [List.map_cons, List.mapM_cons, hl a List.mem_cons_self, hrest]
      simp

/-- Items that are each read back are read back as a list. -/
theorem decodeList_map {decode : Decoder Json α} {encode : α → Json} {values : List α}
    (h : ∀ a ∈ values, decode (encode a) = .ok a) :
    decodeList decode (Json.array (values.map encode)) = .ok values := by
  have items : (values.map encode).mapM decode = .ok (values.map id) := mapM_map_of_forall h
  rw [List.map_id] at items
  simp [decodeList, Json.view, items, bind, Except.bind]

@[simp] theorem decodeList_ofStrings (values : List String) :
    decodeList decodeString (Json.ofStrings values) = .ok values :=
  decodeList_map fun s _ => decodeString_string s

end CollectionSearch
