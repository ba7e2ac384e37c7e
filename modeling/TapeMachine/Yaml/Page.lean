set_option autoImplicit false

namespace TapeMachine.Yaml

/-- A page that is being written. -/
structure Page where
  /-- The characters written, the last one first. -/
  reversed : List Char
  column : Nat
  /-- Whether a sign may follow without a blank. -/
  spaced : Bool
  /-- Whether only indentation and signs that begin an item stand on the line. -/
  fresh : Bool

namespace Page

def empty : Page := ⟨[], 0, true, true⟩

def text (p : Page) : String := String.ofList p.reversed.reverse

def put (characters : List Char) (p : Page) : Page :=
  { p with
    reversed := characters.reverseAux p.reversed
    column := p.column + characters.length }

def endLine (br : Char) (p : Page) : Page := ⟨br :: p.reversed, 0, true, true⟩

/-- Write a sign behind a blank, unless none is needed; `opens` tells that it begins an item. -/
def sign (characters : List Char) (opens : Bool) (p : Page) : Page :=
  { (if p.spaced then p.put characters else p.put (' ' :: characters)) with
    spaced := false
    fresh := p.fresh && opens }

def close (characters : List Char) (p : Page) : Page :=
  { p.put characters with spaced := false, fresh := false }

/-- Go on at a column, on a new line unless the current one is free up to there. -/
def indent (column : Nat) (p : Page) : Page :=
  let isFull := !p.fresh || column < p.column || (p.column == column && !p.spaced)
  let p := if isFull then p.endLine '\n' else p
  if p.column < column then { p.put (List.replicate (column - p.column) ' ') with spaced := true }
  else p

def continueAt (column : Nat) (p : Page) : Page :=
  { p.indent column with spaced := false, fresh := false }

end Page

end TapeMachine.Yaml
