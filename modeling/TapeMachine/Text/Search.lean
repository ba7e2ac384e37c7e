set_option autoImplicit false

namespace TapeMachine.Text

def occursIn (sought : List Char) : List Char → Bool
  | [] => sought.isEmpty
  | c :: rest => sought.isPrefixOf (c :: rest) || occursIn sought rest

end TapeMachine.Text
