import CollectionSearch.Json.Basic
import CollectionSearch.Text.Character

/-!
# Tokens of JSON text

The characters of a JSON text cut into tokens. A token may be sound to pass over and yet have no
value: a number too large for any format, or a string with half of a surrogate pair. So each
token that stands for a value says both what reading it gives and what passing over it gives. A
token that cannot even be passed over is the last one.

* `Fault` : the two ways in which a text fails to be JSON.
* `Piece` : the content of a string before surrogates are paired.
* `Token` : the tokens, and `tokens` : the tokens of a text.
-/

namespace CollectionSearch.Json

/-- Why a text is not JSON. -/
inductive Fault where
  /-- It ended too early. -/
  | ended
  /-- A character is out of place, or a token has no value. -/
  | malformed
  deriving DecidableEq

/-- A token of JSON text. -/
inductive Token where
  | openObject
  | closeObject
  | openArray
  | closeArray
  | comma
  | colon
  /-- A word or a number: its value, and what stops passing over it. -/
  | scalar (value : Except Fault Json) (passing : Option Fault)
  /-- A string: its content, and what stops passing over it. -/
  | text (value : Except Fault String) (passing : Option Fault)
  /-- A character that starts no token. -/
  | stray

/-- A token and the characters after it. -/
structure Scanned (cs : List Char) where
  /-- The token. -/
  token : Token
  /-- What follows; nothing if the token cannot be passed over. -/
  rest : List Char
  /-- Scanning never goes back. -/
  short : rest.length ≤ cs.length

/-! ## Words -/

/-- Reads the remaining characters of a word. -/
def scanWord (value : Json) (word cs : List Char) : Scanned cs :=
  if word.isPrefixOf cs then ⟨.scalar (.ok value) none, cs.drop word.length, by simp⟩
  else
    let fault : Fault := if cs.isPrefixOf word then .ended else .malformed
    ⟨.scalar (.error fault) (some fault), [], Nat.zero_le _⟩

/-! ## Numbers -/

/-- The number that decimal digits stand for. -/
def digitsValue (ds : List Char) : Nat :=
  ds.foldl (fun n d => 10 * n + (d.toNat - '0'.toNat)) 0

/-- The value of a number without fraction and exponent: a whole number if it is in range. Minus
zero and numbers out of range are binary numbers. -/
def wholeValue (negative : Bool) (digits : Nat) : Except Fault Json :=
  let n : Int := if negative then -(digits : Int) else digits
  match if negative ∧ digits = 0 then none else Whole.ofInt? n with
  | some w => .ok (.whole w)
  | none =>
    match FiniteBinary.ofDecimal? binary64 negative digits 0 with
    | some x => .ok (.decimal x)
    | none => .error .malformed

/-- The value of a number with a fraction or an exponent. -/
def decimalValue (negative : Bool) (digits : Nat) (power : Int) : Except Fault Json :=
  match FiniteBinary.ofDecimal? binary64 negative digits power with
  | some x => .ok (.decimal x)
  | none => .error .malformed

/-- A number breaks off where a digit must stand. At the end of the text a reader waits for more,
while passing over the number only sees that the digit is missing. -/
def missingDigit (cs : List Char) : Token :=
  .scalar (.error (if cs.isEmpty then .ended else .malformed)) (some .malformed)

/-- The sign of an exponent and what follows it. -/
def exponentSign : List Char → Bool × List Char
  | '-' :: r => (true, r)
  | '+' :: r => (false, r)
  | r => (false, r)

/-- Scans the digits before the point. A zero stands alone there. -/
def scanWhole (cs : List Char) : Except Token (List Char × List Char) :=
  let digits := cs.takeWhile Char.isDigit
  if digits.isEmpty then .error (missingDigit cs)
  else if digits.head? = some '0' ∧ digits.length > 1 then
    .error (.scalar (.error .malformed) (some .malformed))
  else .ok (digits, cs.dropWhile Char.isDigit)

/-- Scans a point and the digits after it, if there is a point. -/
def scanFraction : List Char → Except Token (List Char × List Char)
  | '.' :: r =>
    if (r.takeWhile Char.isDigit).isEmpty then .error (missingDigit r)
    else .ok (r.takeWhile Char.isDigit, r.dropWhile Char.isDigit)
  | r => .ok ([], r)

/-- Scans an exponent, if there is one. -/
def scanExponent : List Char → Except Token (Option Int × List Char)
  | [] => .ok (none, [])
  | c :: r =>
    if c = 'e' ∨ c = 'E' then
      let signed := exponentSign r
      let digits := signed.2.takeWhile Char.isDigit
      if digits.isEmpty then .error (missingDigit signed.2)
      else
        let size : Int := digitsValue digits
        .ok (some (if signed.1 then -size else size), signed.2.dropWhile Char.isDigit)
    else .ok (none, c :: r)

/-- Scans a number after its sign. -/
def scanUnsigned (negative : Bool) (cs : List Char) : Token × List Char :=
  match scanWhole cs with
  | .error t => (t, [])
  | .ok (leading, afterWhole) =>
    match scanFraction afterWhole with
    | .error t => (t, [])
    | .ok (fraction, afterFraction) =>
      match scanExponent afterFraction with
      | .error t => (t, [])
      | .ok (exponent, rest) =>
        let value :=
          if fraction.isEmpty ∧ exponent.isNone then wholeValue negative (digitsValue leading)
          else decimalValue negative (digitsValue (leading ++ fraction))
            (exponent.getD 0 - fraction.length)
        (.scalar value none, rest)

theorem length_dropWhile_le (p : Char → Bool) (cs : List Char) :
    (cs.dropWhile p).length ≤ cs.length := by
  simpa using (List.dropWhile_suffix p).length_le

theorem exponentSign_short (cs : List Char) : (exponentSign cs).2.length ≤ cs.length := by
  unfold exponentSign
  split <;> simp

theorem scanWhole_short {cs digits rest : List Char} (h : scanWhole cs = .ok (digits, rest)) :
    rest.length ≤ cs.length - 1 := by
  cases cs with
  | nil => simp [scanWhole] at h
  | cons c cs =>
      by_cases hc : c.isDigit
      · have hrest : rest = cs.dropWhile Char.isDigit := by
          unfold scanWhole at h
          simp only at h
          split at h
          · simp at h
          · split at h
            · simp at h
            · injection h with h
              injection h with _ h
              simpa [hc] using h.symm
        rw [hrest]
        exact length_dropWhile_le _ _
      · simp [scanWhole, hc] at h

theorem scanFraction_short {cs digits rest : List Char}
    (h : scanFraction cs = .ok (digits, rest)) : rest.length ≤ cs.length := by
  unfold scanFraction at h
  split at h
  · rename_i r
    split at h
    · simp at h
    · injection h with h
      injection h with _ h
      rw [← h]
      exact Nat.le_succ_of_le (length_dropWhile_le _ _)
  · injection h with h
    injection h with _ h
    exact Nat.le_of_eq (congrArg List.length h.symm)

theorem scanExponent_short {cs rest : List Char} {e : Option Int}
    (h : scanExponent cs = .ok (e, rest)) : rest.length ≤ cs.length := by
  cases cs with
  | nil =>
      injection h with h
      injection h with _ h
      simp [← h]
  | cons c r =>
      unfold scanExponent at h
      simp only at h
      split at h
      · split at h
        · simp at h
        · injection h with h
          injection h with _ h
          rw [← h]
          exact Nat.le_succ_of_le
            (Nat.le_trans (length_dropWhile_le _ _) (exponentSign_short _))
      · injection h with h
        injection h with _ h
        simp [← h]

/-- Scanning a number takes at least one character. -/
theorem scanUnsigned_short (negative : Bool) (cs : List Char) :
    (scanUnsigned negative cs).2.length ≤ cs.length - 1 := by
  unfold scanUnsigned
  split
  · simp
  · rename_i leading afterWhole hwhole
    have h₁ := scanWhole_short hwhole
    split
    · simp
    · rename_i fraction afterFraction hfraction
      have h₂ := scanFraction_short hfraction
      split
      · simp
      · rename_i exponent rest hexponent
        have h₃ := scanExponent_short hexponent
        simp only
        omega

/-- Scans a number after its first character, which is a minus sign or a digit. -/
def scanNumber (c : Char) (cs : List Char) : Scanned cs :=
  if c = '-' then
    ⟨(scanUnsigned true cs).1, (scanUnsigned true cs).2,
      Nat.le_trans (scanUnsigned_short true cs) (Nat.sub_le _ _)⟩
  else
    ⟨(scanUnsigned false (c :: cs)).1, (scanUnsigned false (c :: cs)).2,
      scanUnsigned_short false (c :: cs)⟩

/-! ## Strings -/

/-- A part of the content of a string: a character, or a 16-bit unit given by number. -/
inductive Piece where
  | plain (c : Char)
  | unit (n : Nat)

/-- The value of four hexadecimal digits. -/
def hexUnit? (a b c d : Char) : Option Nat :=
  Text.ofDigits? 16 [a, b, c, d]

/-- The character that a backslash and a letter stand for. -/
def escaped? : Char → Option Char
  | '"' => some '"'
  | '\\' => some '\\'
  | '/' => some '/'
  | 'b' => some '\x08'
  | 'f' => some '\x0c'
  | 'n' => some '\n'
  | 'r' => some '\r'
  | 't' => some '\t'
  | _ => none

/-- The content of a string up to its end: the pieces, and either what follows the closing mark
or the fault that stops the scan. -/
structure Body where
  /-- The pieces in order. -/
  pieces : List Piece
  /-- What follows, or the fault. -/
  close : Except Fault (List Char)

/-- Puts a piece in front. -/
def Body.cons (p : Piece) (b : Body) : Body := ⟨p :: b.pieces, b.close⟩

/-- Scans the content of a string. A number of fewer than four bytes at the end of the text is a
text that ended. -/
def scanBody : List Char → Body
  | [] => ⟨[], .error .ended⟩
  | '"' :: r => ⟨[], .ok r⟩
  | '\\' :: 'u' :: a :: b :: c :: d :: r =>
    match hexUnit? a b c d with
    | some n => (scanBody r).cons (.unit n)
    | none => ⟨[], .error .malformed⟩
  | ['\\'] => ⟨[], .error .ended⟩
  | '\\' :: 'u' :: r =>
    ⟨[], .error (if (String.ofList r).utf8ByteSize < 4 then .ended else .malformed)⟩
  | '\\' :: e :: r =>
    match escaped? e with
    | some c => (scanBody r).cons (.plain c)
    | none => ⟨[], .error .malformed⟩
  | c :: r => if c.toNat < 32 then ⟨[], .error .malformed⟩ else (scanBody r).cons (.plain c)

/-- The outcome of pairing surrogates. -/
inductive Paired where
  /-- All units are paired. -/
  | complete (cs : List Char)
  /-- The pieces end after the first half of a pair. -/
  | pending
  /-- A half stands alone. -/
  | alone

/-- Puts a character in front of a complete content. -/
def Paired.cons (c : Char) : Paired → Paired
  | .complete cs => .complete (c :: cs)
  | p => p

/-- Pairs the surrogates among the pieces. -/
def pairUnits : List Piece → Paired
  | [] => .complete []
  | .plain c :: r => (pairUnits r).cons c
  | .unit hi :: r =>
    if hi < 0xD800 ∨ 0xDFFF < hi then (pairUnits r).cons (Char.ofNat hi)
    else if 0xDC00 ≤ hi then .alone
    else
      match r with
      | [] => .pending
      | .unit lo :: r' =>
        if 0xDC00 ≤ lo ∧ lo ≤ 0xDFFF then
          (pairUnits r').cons (Char.ofNat (0x10000 + (hi - 0xD800) * 0x400 + (lo - 0xDC00)))
        else .alone
      | .plain _ :: _ => .alone

/-- What reading a string gives: a lone surrogate before the fault is found first. -/
def Body.value (b : Body) : Except Fault String :=
  match pairUnits b.pieces, b.close with
  | .alone, _ => .error .malformed
  | .complete cs, .ok _ => .ok (String.ofList cs)
  | .pending, .ok _ => .error .malformed
  | _, .error f => .error f

/-- Scanning a string never goes back. -/
theorem scanBody_short (cs rest : List Char) (h : (scanBody cs).close = .ok rest) :
    rest.length ≤ cs.length := by
  fun_induction scanBody cs generalizing rest with
  | case1 => simp at h
  | case2 r =>
      injection h with h
      simp [h]
  | case3 a b c d r n hn ih =>
      have := ih rest h
      simp only [List.length_cons]
      omega
  | case4 => simp at h
  | case5 => simp at h
  | case6 => simp at h
  | case7 e r _ _ c _ ih =>
      have := ih rest h
      simp only [List.length_cons]
      omega
  | case8 => simp at h
  | case9 => simp at h
  | case10 c r _ _ _ _ _ _ ih =>
      have := ih rest h
      simp only [List.length_cons]
      omega

/-- Scans a string after its opening mark. -/
def scanString (cs : List Char) : Scanned cs :=
  match h : (scanBody cs).close with
  | .ok rest => ⟨.text (scanBody cs).value none, rest, scanBody_short cs rest h⟩
  | .error f => ⟨.text (scanBody cs).value (some f), [], Nat.zero_le _⟩

/-! ## Texts -/

/-- The characters that may stand between tokens. -/
def isBlank (c : Char) : Bool := c = ' ' ∨ c = '\n' ∨ c = '\t' ∨ c = '\r'

/-- Scans the token that starts with a character which is no blank. -/
def scanToken (c : Char) (cs : List Char) : Scanned cs :=
  match c with
  | '{' => ⟨.openObject, cs, Nat.le_refl _⟩
  | '}' => ⟨.closeObject, cs, Nat.le_refl _⟩
  | '[' => ⟨.openArray, cs, Nat.le_refl _⟩
  | ']' => ⟨.closeArray, cs, Nat.le_refl _⟩
  | ',' => ⟨.comma, cs, Nat.le_refl _⟩
  | ':' => ⟨.colon, cs, Nat.le_refl _⟩
  | '"' => scanString cs
  | 'n' => scanWord .null ['u', 'l', 'l'] cs
  | 't' => scanWord (.bool true) ['r', 'u', 'e'] cs
  | 'f' => scanWord (.bool false) ['a', 'l', 's', 'e'] cs
  | c => if c = '-' ∨ c.isDigit then scanNumber c cs else ⟨.stray, [], Nat.zero_le _⟩

/-- The tokens of a text. -/
def tokens : List Char → List Token
  | [] => []
  | c :: cs =>
    if isBlank c then tokens cs
    else
      let scanned := scanToken c cs
      scanned.token :: tokens scanned.rest
termination_by cs => cs.length
decreasing_by
  · simp
  · exact Nat.lt_succ_of_le scanned.short

end CollectionSearch.Json
