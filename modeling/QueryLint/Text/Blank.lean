/-!
White space in text, and cutting it off at the ends.
-/

namespace QueryLint.Text

/-- White space: the ASCII controls from tab to carriage return, the space, and the spaces and
line ends beyond ASCII. -/
def isBlank (c : Char) : Bool :=
  let n := c.toNat
  (0x09 ≤ n && n ≤ 0x0D) || n == 0x20 || n == 0x85 || n == 0xA0 || n == 0x1680 ||
    (0x2000 ≤ n && n ≤ 0x200A) || n == 0x2028 || n == 0x2029 || n == 0x202F || n == 0x205F ||
    n == 0x3000

def trimEndList (drop : Char → Bool) (cs : List Char) : List Char :=
  (cs.reverse.dropWhile drop).reverse

def trimEndWhile (drop : Char → Bool) (text : String) : String :=
  String.ofList (trimEndList drop text.toList)

def trimWhile (drop : Char → Bool) (text : String) : String :=
  String.ofList (trimEndList drop (text.toList.dropWhile drop))

def trim (text : String) : String := trimWhile isBlank text

def splitList (separator : Char) : List Char → List (List Char)
  | [] => [[]]
  | c :: rest =>
    if c = separator then [] :: splitList separator rest
    else match splitList separator rest with
      | [] => [[c]]
      | piece :: pieces => (c :: piece) :: pieces

theorem splitList_ne_nil (separator : Char) (text : List Char) : splitList separator text ≠ [] := by
  cases text with
  | nil => nofun
  | cons c rest =>
    rw [splitList]
    split
    · nofun
    · split <;> nofun

/-- The pieces of a text between separators: one more than there are separators. -/
def splitOn (separator : Char) (text : String) : List String :=
  (splitList separator text.toList).map String.ofList

def stripStart? : List Char → List Char → Option (List Char)
  | [], rest => some rest
  | _ :: _, [] => none
  | a :: start, c :: rest => if a = c then stripStart? start rest else none

def afterStart? (start text : String) : Option String :=
  (stripStart? start.toList text.toList).map String.ofList

def startsWith (start text : String) : Bool := (afterStart? start text).isSome

def beforeEnd? (stop text : String) : Option String :=
  (stripStart? stop.toList.reverse text.toList.reverse).map (String.ofList ·.reverse)

def endsWith (stop text : String) : Bool := (beforeEnd? stop text).isSome

def replaceList (pattern replacement : List Char) : List Char → Nat → List Char
  | [], _ => []
  | _ :: rest, skip + 1 => replaceList pattern replacement rest skip
  | c :: rest, 0 =>
    if (stripStart? pattern (c :: rest)).isSome && !pattern.isEmpty then
      replacement ++ replaceList pattern replacement rest (pattern.length - 1)
    else c :: replaceList pattern replacement rest 0

/-- Replaces every occurrence of `pattern`; an empty pattern occurs before every character and at
the end. -/
def replaceAll (pattern replacement text : String) : String :=
  if pattern.isEmpty then
    String.ofList (text.toList.foldr (fun c rest => replacement.toList ++ c :: rest)
      replacement.toList)
  else String.ofList (replaceList pattern.toList replacement.toList text.toList 0)

end QueryLint.Text
