set_option autoImplicit false

namespace TapeMachine

/-- A path: the slashes at its start, if it is absolute, and its names. -/
structure Path where
  root : List Char
  names : List (List Char)
  deriving DecidableEq

namespace Path

def splitSlashes : List Char → List (List Char)
  | [] => [[]]
  | c :: rest =>
    match splitSlashes rest with
    | part :: parts => if c = '/' then [] :: part :: parts else (c :: part) :: parts
    | [] => [[c]]

def namesOf (text : List Char) : List (List Char) :=
  (splitSlashes text).filter fun name => name ≠ [] ∧ name ≠ ['.']

/-- The path that a text denotes; exactly two slashes at the start are kept. -/
def ofString (text : String) : Path :=
  let slashes := (text.toList.takeWhile (· == '/')).length
  let root := if slashes = 0 then [] else if slashes = 2 then ['/', '/'] else ['/']
  ⟨root, namesOf text.toList⟩

def joined (names : List (List Char)) : List Char := ['/'].intercalate names

/-- The text of a path; the empty path is the current directory. -/
def text (p : Path) : String :=
  if p.root = [] ∧ p.names = [] then "." else String.ofList (p.root ++ joined p.names)

def name (p : Path) : List Char := p.names.getLast?.getD []

/-- How long a name is before the point of its suffix; none if it has no suffix. -/
def suffixStart? (name : List Char) : Option Nat :=
  let after := (name.reverse.takeWhile (· != '.')).length
  let start := name.length - (after + 1)
  if after + 1 < name.length ∧ 0 < after then some start else none

/-- The suffix of a name: its last point, neither first nor last in the name, and what follows. -/
def suffix (p : Path) : List Char :=
  match suffixStart? p.name with
  | some start => p.name.drop start
  | none => []

/-- A name with its suffix replaced, or with a suffix added if it has none. -/
def replaceSuffix (suffix name : List Char) : List Char :=
  match suffixStart? name with
  | some start => name.take start ++ suffix
  | none => name ++ suffix

def withSuffix (suffix : List Char) (p : Path) : Path :=
  { p with names := p.names.dropLast ++ [replaceSuffix suffix p.name] }

/-- Names in which every pair of dots has taken back the name before it. -/
def collapse (names : List (List Char)) : List (List Char) :=
  (names.foldl
    (fun kept name =>
      if name = ['.', '.'] then
        match kept with
        | last :: rest => if last = ['.', '.'] then name :: kept else rest
        | [] => [name]
      else name :: kept)
    []).reverse

/-- A path with its pairs of dots taken back as a matter of text. -/
def simplify (p : Path) : Path := { p with names := collapse p.names }

end Path

end TapeMachine
