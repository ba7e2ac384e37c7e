import TapeMachine.Byte

set_option autoImplicit false

namespace TapeMachine

/-- An instruction of the machine. -/
inductive Opcode
  | nop
  | inc
  | dec
  | ptrLeft
  | ptrRight
  | read
  | write
  | loopStart
  | loopEnd
  | halt
  deriving DecidableEq, Inhabited

namespace Opcode

def code : Opcode → UInt8
  | nop => 0
  | inc => 1
  | dec => 2
  | ptrLeft => 3
  | ptrRight => 4
  | read => 5
  | write => 6
  | loopStart => 7
  | loopEnd => 8
  | halt => 255

def ofCode? : Int → Option Opcode
  | 0 => some nop
  | 1 => some inc
  | 2 => some dec
  | 3 => some ptrLeft
  | 4 => some ptrRight
  | 5 => some read
  | 6 => some write
  | 7 => some loopStart
  | 8 => some loopEnd
  | 255 => some halt
  | _ => none

/-- The instruction of a code, where an unknown code does nothing. -/
def ofCode (n : Int) : Opcode := (ofCode? n).getD nop

/-- The instruction that a byte of a binary program stands for. -/
def ofByte (b : UInt8) : Opcode := ofCode b.toNat

/-- The source symbol of an instruction; doing nothing and stopping have none. -/
def symbol? : Opcode → Option Char
  | inc => some '+'
  | dec => some '-'
  | ptrLeft => some '<'
  | ptrRight => some '>'
  | read => some ','
  | write => some '.'
  | loopStart => some '['
  | loopEnd => some ']'
  | nop => none
  | halt => none

/-- The instruction of a source character; every character that is no symbol is a comment. -/
def ofChar : Char → Opcode
  | '+' => inc
  | '-' => dec
  | '<' => ptrLeft
  | '>' => ptrRight
  | ',' => read
  | '.' => write
  | '[' => loopStart
  | ']' => loopEnd
  | _ => nop

def name : Opcode → String
  | nop => "NOP"
  | inc => "INC"
  | dec => "DEC"
  | ptrLeft => "PTR_LEFT"
  | ptrRight => "PTR_RIGHT"
  | read => "READ"
  | write => "WRITE"
  | loopStart => "LOOP_START"
  | loopEnd => "LOOP_END"
  | halt => "HALT"

/-- The name of an instruction, with its symbol in parentheses where it has one. -/
def mnemonic (op : Opcode) : String :=
  match op.symbol? with
  | some c => op.name ++ " (" ++ c.toString ++ ")"
  | none => op.name

theorem ofByte_code (op : Opcode) : ofByte op.code = op := by
  cases op <;> rfl

end Opcode

def Opcode.ofSource (source : List Char) : List Opcode := source.map Opcode.ofChar

def Opcode.encode (ops : List Opcode) : List UInt8 := ops.map Opcode.code

def Opcode.decode (code : List UInt8) : List Opcode := code.map Opcode.ofByte

theorem Opcode.decode_encode (ops : List Opcode) : Opcode.decode (Opcode.encode ops) = ops := by
  simp [Opcode.decode, Opcode.encode, Opcode.ofByte_code, Function.comp_def]

end TapeMachine
