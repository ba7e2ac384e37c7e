set_option autoImplicit false

namespace TapeMachine.Text

/-- A pattern of text. -/
inductive Pattern
  | never
  | empty
  | one (allowed : Char → Bool)
  | seq (first second : Pattern)
  | alt (left right : Pattern)
  | many (body : Pattern)

namespace Pattern

def nullable : Pattern → Bool
  | never => false
  | empty => true
  | one _ => false
  | seq first second => first.nullable && second.nullable
  | alt left right => left.nullable || right.nullable
  | many _ => true

def andThen : Pattern → Pattern → Pattern
  | never, _ => never
  | empty, second => second
  | first, second => seq first second

def orElse : Pattern → Pattern → Pattern
  | never, right => right
  | left, never => left
  | left, right => alt left right

def derivative (c : Char) : Pattern → Pattern
  | never => never
  | empty => never
  | one allowed => if allowed c then empty else never
  | seq first second =>
    let inFirst := (first.derivative c).andThen second
    if first.nullable then inFirst.orElse (second.derivative c) else inFirst
  | alt left right => (left.derivative c).orElse (right.derivative c)
  | many body => (body.derivative c).andThen (many body)

def fits (p : Pattern) (text : List Char) : Bool :=
  (text.foldl (fun rest c => rest.derivative c) p).nullable

def word (text : String) : Pattern :=
  text.toList.foldr (fun c rest => seq (one (· == c)) rest) empty

def words (texts : List String) : Pattern :=
  texts.foldr (fun text rest => alt (word text) rest) never

def among (characters : String) : Pattern := one characters.toList.contains

def optional (p : Pattern) : Pattern := alt p empty

def some (p : Pattern) : Pattern := seq p (many p)

def all (ps : List Pattern) : Pattern := ps.foldr seq empty

def any (ps : List Pattern) : Pattern := ps.foldr alt never

def digit : Pattern := one Char.isDigit

end Pattern

end TapeMachine.Text
