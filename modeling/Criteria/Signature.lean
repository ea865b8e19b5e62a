import Criteria.Json.Display

/-!
# Signatures

A call is given arguments by position and by name.  Its signature says which ones it takes.  The
first position is that of the receiver, on whom the call is made.
-/

namespace Criteria

/-- A parameter of a call, which a call may have to give. -/
structure Parameter where
  name : String
  isRequired : Bool
deriving DecidableEq, Repr

/-- What a call takes, besides its receiver. -/
structure Signature where
  name : String
  parameters : List Parameter
  /-- Whether the call also takes arguments of any other name. -/
  isOpen : Bool
deriving DecidableEq, Repr

/-- How arguments can fail to fit a signature. -/
inductive Mismatch where
  | repeated (name : String)
  | unexpected (name : String)
  | tooMany (given : Nat)
  | missing (names : List String)
deriving DecidableEq, Repr

namespace Signature

def receiver : String :=
  "self"

/-- The names that are taken by the receiver and so many arguments. -/
def taken (signature : Signature) (count : Nat) : List String :=
  receiver :: (signature.parameters.map (·.name)).take count

/-- What is wrong with the name of an argument, when so many are given by position. -/
def mismatchOf? (signature : Signature) (count : Nat) (name : String) : Option Mismatch :=
  if (signature.taken count).contains name then some (.repeated name)
  else if signature.isOpen || signature.parameters.any (·.name == name) then none
  else some (.unexpected name)

/-- The parameters that have to be given but are given neither by position nor by name. -/
def missing (signature : Signature) (count : Nat) (named : List (String × Json)) : List String :=
  ((signature.parameters.drop count).filter fun parameter =>
    parameter.isRequired && (named.lookup parameter.name).isNone).map (·.name)

/--
The arguments by name.  Names are checked first, in the order in which they are given, then the
number of positions, and at last what is missing.
-/
def bind (signature : Signature) (positional : List Json) (named : List (String × Json)) :
    Except Mismatch (List (String × Json)) :=
  let count := positional.length
  match named.findSome? fun entry => signature.mismatchOf? count entry.1 with
  | some mismatch => .error mismatch
  | none =>
      if !signature.isOpen && signature.parameters.length < count then .error (.tooMany count)
      else if !(signature.missing count named).isEmpty then
        .error (.missing (signature.missing count named))
      else .ok ((signature.parameters.map (·.name)).zip positional ++ named)

/-- How many positions there are, with the receiver: all of them, or from the required ones on. -/
def positionsText (signature : Signature) : String :=
  let most := signature.parameters.length + 1
  let least := (signature.parameters.filter (·.isRequired)).length + 1
  if least = most then String.ofList (decimalText most) ++ " positional arguments"
  else
    "from " ++ String.ofList (decimalText least) ++ " to " ++ String.ofList (decimalText most) ++
      " positional arguments"

/-- A list of names between quotation marks, the last after the word and. -/
def listNames : List String → String
  | [] => ""
  | [name] => Text.quoteName name
  | [name, last] => Text.quoteName name ++ " and " ++ Text.quoteName last
  | [name, next, last] =>
      Text.quoteName name ++ ", " ++ Text.quoteName next ++ ", and " ++ Text.quoteName last
  | name :: rest => Text.quoteName name ++ ", " ++ listNames rest

/-- How a mismatch is described. -/
def describe (signature : Signature) : Mismatch → String
  | .repeated name => signature.name ++ "() got multiple values for argument '" ++ name ++ "'"
  | .unexpected name => signature.name ++ "() got an unexpected keyword argument '" ++ name ++ "'"
  | .tooMany given =>
      signature.name ++ "() takes " ++ signature.positionsText ++ " but " ++
        String.ofList (decimalText (given + 1)) ++ " were given"
  | .missing names =>
      signature.name ++ "() missing " ++ String.ofList (decimalText names.length) ++
        " required positional argument" ++ (if names.length = 1 then "" else "s") ++ ": " ++
        listNames names

end Signature

end Criteria
