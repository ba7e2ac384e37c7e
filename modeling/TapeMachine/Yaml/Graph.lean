import TapeMachine.Value

/-!
Values of which parts are shared: a collection may be an item of several others and even of itself.
Objects have numbers, and a collection holds the numbers of its parts. As a value, an object is
unfolded; one that contains itself is unfolded some levels deep.
-/

set_option autoImplicit false

namespace TapeMachine.Yaml

/-- An object; its parts are given by their numbers. -/
inductive Object
  /-- A value that shares nothing with other objects. -/
  | leaf (v : Value)
  | list (items : List Nat)
  | map (entries : List (Nat × Nat))
  | set (items : List Nat)
  /-- A sequence of pairs. -/
  | pairs (entries : List (Nat × Nat))

/-- Objects and the number of the one that stands for all. -/
structure Graph where
  objects : Array Object
  root : Nat

namespace Object

def parts : Object → List Nat
  | leaf _ => []
  | list items => items
  | map entries => entries.flatMap fun (key, value) => [key, value]
  | set items => items
  | pairs entries => entries.flatMap fun (first, second) => [first, second]

def isCollection : Object → Bool
  | leaf _ => false
  | _ => true

def unfold (valueOf : Nat → Value) : Object → Value
  | leaf v => v
  | list items => .list (items.map valueOf)
  | map entries => .map (entries.map fun (key, value) => (valueOf key, valueOf value))
  | set items => .set (items.map valueOf)
  | pairs entries =>
    .list (entries.map fun (first, second) => .pair (valueOf first) (valueOf second))

end Object

namespace Graph

def object (g : Graph) (n : Nat) : Object := g.objects.getD n (.leaf .null)

def values (objects : Array Object) : (levels : Nat) → Array Value
  | 0 => objects.map (Object.unfold fun _ => .null)
  | levels + 1 =>
    let inner := values objects levels
    objects.map (Object.unfold fun n => inner.getD n .null)

/-- How many levels each object has, as far as a number of steps into its parts shows them. -/
def raise (objects : Array Object) (heights : Array Nat) : Array Nat :=
  objects.map fun o => o.parts.foldl (fun height n => max height (heights.getD n 0 + 1)) 0

/-- After how many steps the heights of objects stay the same, if they do so after `fuel` steps. -/
def stepsToHeight (objects : Array Object) : (fuel : Nat) → (heights : Array Nat) → Nat
  | 0, _ => 0
  | fuel + 1, heights =>
    let next := raise objects heights
    if next = heights then 0 else 1 + stepsToHeight objects fuel next

/--
How many levels have to be unfolded. Only where an object contains itself is the number of
collections reached; then this many levels, and some more, are enough to see what every part is.
-/
def levels (objects : Array Object) : Nat :=
  let collections := (objects.filter Object.isCollection).size
  stepsToHeight objects (collections + 3) (objects.map fun _ => 0)

def value (g : Graph) : Value := (values g.objects (levels g.objects)).getD g.root .null

/-- Add an object; returns its number. -/
def add (o : Object) (g : Graph) : Nat × Graph :=
  (g.objects.size, { g with objects := g.objects.push o })

def replace (n : Nat) (o : Object) (g : Graph) : Graph :=
  { g with objects := g.objects.setIfInBounds n o }

def isText (g : Graph) (text : String) (n : Nat) : Bool :=
  match g.object n with
  | .leaf v => v.sameKey (.str text)
  | _ => false

def under? (g : Graph) (name : String) (entries : List (Nat × Nat)) : Option Nat :=
  (entries.find? fun entry => g.isText name entry.1).map Prod.snd

/-- Put an object under a text among the entries of a mapping; a new text comes last. -/
def putUnder (name : String) (n : Nat) (entries : List (Nat × Nat)) (g : Graph) :
    List (Nat × Nat) × Graph :=
  if entries.any fun entry => g.isText name entry.1 then
    (entries.map fun (key, value) => (key, if g.isText name key then n else value), g)
  else
    let (key, g) := g.add (.leaf (.str name))
    (entries ++ [(key, n)], g)

end Graph

end TapeMachine.Yaml
