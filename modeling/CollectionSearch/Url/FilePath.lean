import CollectionSearch.Text.Split

/-!
# Paths of files

The path of a file URL matters to its host only through drive letters: a drive letter at the root
of the path stands for the machine it is on, so no host goes with it.

* `isIgnored`, `significant` : tabs and line breaks, which count for nothing in a URL.
* `isDrive` : drive letters.
* `segments` : the pieces of a path between slashes.
* `reachesDrive` : whether there is ever a drive letter at the root while the path is followed.

A drive letter is never left again by `..`. At the root, a drive letter that an ignored character
parts from what follows is a segment of its own and stands for no machine.
-/

namespace CollectionSearch.Url

/-! ## Characters that count for nothing -/

/-- Whether a character counts for nothing anywhere. -/
def isIgnored (c : Char) : Bool := c = '\t' || c = '\n' || c = '\r'

/-- The characters of a text that count. -/
def significant (cs : List Char) : List Char := cs.filter fun c => !isIgnored c

/-- What follows the given number of characters that count. -/
def dropSignificant : Nat → List Char → List Char
  | 0, cs => cs
  | _ + 1, [] => []
  | n + 1, c :: cs => if isIgnored c then dropSignificant (n + 1) cs else dropSignificant n cs

/-! ## Segments -/

/-- Whether a character parts the segments of a path. -/
def isSlash (c : Char) : Bool := c = '/' || c = '\\'

/-- The segments of the path at the front of a text, whatever stands before its first slash left
out. -/
def segments (cs : List Char) : List (List Char) :=
  let path := (cs.takeWhile fun c => c ≠ '?' && c ≠ '#').map fun c => if c = '\\' then '/' else c
  (Text.splitChars '/' path).drop 1

/-- A segment with its escaped dots resolved. -/
def plainDots : List Char → List Char
  | '%' :: '2' :: 'e' :: cs => '.' :: plainDots cs
  | '%' :: '2' :: 'E' :: cs => '.' :: plainDots cs
  | c :: cs => c :: plainDots cs
  | [] => []

/-! ## Drive letters -/

/-- Whether a text is a drive letter. -/
def isDrive : List Char → Bool
  | [letter, mark] => letter.isAlpha && (mark = ':' || mark = '|')
  | _ => false

/-- Whether an ignored character parts a drive letter with a colon from more of the segment. -/
def isPartedDrive (cs : List Char) : Bool :=
  let drive := (significant cs).take 2
  let rest := dropSignificant 2 cs
  isDrive drive && drive.contains ':' && rest.head?.any isIgnored && !(significant rest).isEmpty

/-- The segments that are left after `..`, the last one first. -/
def leave : List (List Char) → List (List Char)
  | [] => []
  | last :: above => if isDrive last then last :: above else above

/-- Whether a path that stands below the given segments, the last one first, comes to a drive
letter at its root. -/
def reachesDrive : List (List Char) → List (List Char) → Bool
  | _, [] => false
  | above, piece :: rest =>
    let segment := significant piece
    match plainDots segment with
    | ['.', '.'] => reachesDrive (leave above) rest
    | ['.'] => reachesDrive above rest
    | _ =>
      if above.isEmpty then
        if isPartedDrive piece then false else isDrive segment || reachesDrive [segment] rest
      else reachesDrive (segment :: above) rest

end CollectionSearch.Url
