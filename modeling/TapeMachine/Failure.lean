import TapeMachine.Config
import TapeMachine.Machine.Loading
import TapeMachine.Yaml.Fault

set_option autoImplicit false

namespace TapeMachine

/-- Why a record cannot be run or filled in. -/
inductive RecordFault
  /-- The record is no mapping, so nothing can be looked up in it. -/
  | notMapping (typeName : String)
  /-- Nothing can be contained in the record. -/
  | notContainer (typeName : String)
  /-- A byte string contains byte strings only. -/
  | bytesOnly
  | noSource
  /-- The place for results holds something that has no fields. -/
  | notAssignable (typeName : String)
  /-- The place for results holds a sequence, which has numbered items only. -/
  | numberedOnly
  deriving DecidableEq

def RecordFault.message : RecordFault → String
  | notMapping typeName => "'" ++ typeName ++ "' object has no attribute 'get'"
  | notContainer typeName => "argument of type '" ++ typeName ++ "' is not iterable"
  | bytesOnly => "a bytes-like object is required, not 'str'"
  | noSource => "'in_source'"
  | notAssignable typeName => "'" ++ typeName ++ "' object does not support item assignment"
  | numberedOnly => "list indices must be integers or slices, not str"

/-- What ended an activity. -/
inductive Failure
  | value (f : Value.Fault)
  | tape (f : Tape.Fault)
  | encoding (f : Text.Utf8.Fault)
  | file (f : Directory.Fault)
  | sourceMissing (path : String)
  | config (f : Config.Fault)
  | document (f : Yaml.Fault)
  | record (f : RecordFault)
  /-- The program runs for ever. -/
  | endless
  deriving DecidableEq

def Failure.message : Failure → String
  | value f => f.message
  | tape f => f.message
  | encoding f => f.message
  | file f => f.message
  | sourceMissing path => "Source file not found: " ++ path
  | config f => f.message
  | document f => f.message
  | record f => f.message
  | endless => "the program does not end"

def Failure.ofRefusal : Config.Refusal → Failure
  | .fault f => config f
  | .unbounded => value .infinityToInteger

end TapeMachine
