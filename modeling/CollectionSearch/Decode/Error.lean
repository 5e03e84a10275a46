import CollectionSearch.Json.Printer
import CollectionSearch.Json.Token
import CollectionSearch.Text.Quoted

/-!
# Decoding errors

Why a JSON value is not a value of the type it is read as.

* `Found`, `Expected` : what stood there and what should have.
* `DecodeError` : the causes, and `DecodeError.message` : their wording.
-/

namespace CollectionSearch

/-! ## What was found -/

/-- The kind of JSON value found, with its content where a message shows it. -/
inductive Found where
  | null
  | bool (b : Bool)
  | whole (n : Whole)
  | decimal (x : FiniteBinary binary64)
  | string (s : String)
  | sequence
  | map

/-- The kind of a value as messages name it. -/
def Found.describe : Found → String
  | null => "null"
  | bool b => "boolean `" ++ (if b then "true" else "false") ++ "`"
  | whole n => "integer `" ++ toString n.val ++ "`"
  | decimal x => "floating point `" ++ jsonLayout.render x ++ "`"
  | string s => "string " ++ Text.quoted s
  | sequence => "sequence"
  | map => "map"

/-! ## What was expected -/

/-- What a decoder expects. -/
inductive Expected where
  | string
  | boolean
  | uint32
  | uint64
  | size
  | single
  | double
  | sequence
  | map
  /-- A record of the given name. -/
  | record (name : String)
  /-- The elements of a record written as an array. -/
  | elements (name : String) (count : Nat)
  /-- An array without further elements. -/
  | fewerElements
  /-- A word, or a map from one word. -/
  | variant
  /-- A map with one member. -/
  | soleKey
  /-- No content beside a word. -/
  | unit

/-- What is expected as messages name it. -/
def Expected.describe : Expected → String
  | string => "a string"
  | boolean => "a boolean"
  | uint32 => "u32"
  | uint64 => "u64"
  | size => "usize"
  | single => "f32"
  | double => "f64"
  | sequence => "a sequence"
  | map => "a map"
  | record name => "struct " ++ name
  | elements name count =>
    "struct " ++ name ++ " with " ++ toString count ++ " element" ++ (if count = 1 then "" else "s")
  | fewerElements => "fewer elements in array"
  | variant => "string or map"
  | soleKey => "map with a single key"
  | unit => "unit"

/-! ## Errors -/

/-- Why a value cannot be decoded. -/
inductive DecodeError where
  /-- A value of another kind. -/
  | invalidType (found : Found) (expected : Expected)
  /-- A value of the right kind outside the range. -/
  | invalidValue (found : Found) (expected : Expected)
  /-- An array of the wrong length. -/
  | invalidLength (length : Nat) (expected : Expected)
  /-- A record without a part that it must have. -/
  | missingField (name : String)
  /-- A record that gives a part twice. -/
  | duplicateField (name : String)
  /-- A word that is none of those known. -/
  | unknownVariant (name : String) (known : List String)
  /-- A value that suits none of the forms of a type. -/
  | noVariant (type : String)
  /-- A value of the right form that the type refuses, in the type's own words. -/
  | rejected (reason : String)
  /-- The text is not JSON. -/
  | unreadable (fault : Json.Fault)

/-- A name between backticks. -/
def backticked (name : String) : String := "`" ++ name ++ "`"

/-- The wording of an error. A text that is not JSON has none beyond its kind. -/
def DecodeError.message : DecodeError → String
  | invalidType found expected =>
    "invalid type: " ++ found.describe ++ ", expected " ++ expected.describe
  | invalidValue found expected =>
    "invalid value: " ++ found.describe ++ ", expected " ++ expected.describe
  | invalidLength length expected =>
    "invalid length " ++ toString length ++ ", expected " ++ expected.describe
  | missingField name => "missing field " ++ backticked name
  | duplicateField name => "duplicate field " ++ backticked name
  | unknownVariant name known =>
    "unknown variant " ++ backticked name ++ ", expected one of " ++
      ", ".intercalate (known.map backticked)
  | noVariant type => "data did not match any variant of untagged enum " ++ type
  | rejected reason => reason
  | unreadable .ended => "eof"
  | unreadable .malformed => "syntax"

end CollectionSearch
