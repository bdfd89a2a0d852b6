import StartStep.Constraint
import StartStep.Json.Decode
import StartStep.Value.Plain

/-!
# Constraints on the command line

A constraint is written `KEY=OP:VALUE`. The key ends at the first equals sign
and the predicate's name at the first colon behind it; all that is left is the
operand, which is plain JSON if it can be read as that, and text otherwise.
-/

namespace StartStep

/-- What is wrong with the text of a constraint. -/
inductive ConstraintFault
  /-- There is no equals sign. -/
  | noKey (text : String)
  /-- There is no colon behind the equals sign. -/
  | noPredicate (key rest : String)
  | emptyKey
  | unknownPredicate (name : String)
  /-- The operand is JSON that is no value. -/
  | noValue (failure : Failure)
deriving DecidableEq

def ConstraintFault.message : ConstraintFault → String
  | .noKey text => "expected KEY=OP:VALUE, got '" ++ text ++ "'"
  | .noPredicate key rest => "expected OP:VALUE after '" ++ key ++ "=', got '" ++ rest ++ "'"
  | .emptyKey => "constraint key must not be empty"
  | .unknownPredicate name => "unknown predicate '" ++ name ++ "'"
  | .noValue failure => failure.message

/-- What stands before and behind the first occurrence of a character. -/
def splitFirst (c : Char) : List Char → Option (List Char × List Char)
  | [] => none
  | x :: rest =>
      if x = c then some ([], rest) else (splitFirst c rest).map fun p => (x :: p.1, p.2)

/-- The operand a text writes. -/
def operandOfText (s : String) : Except Failure Value :=
  match Json.parse s with
  | .ok j => Value.ofJson j
  | .error _ => .ok (.string s)

/-- The constraint a text writes. -/
def Constraint.parse (s : String) : Except ConstraintFault Constraint :=
  match splitFirst '=' s.toList with
  | none => .error (.noKey s)
  | some (key, rest) =>
      match splitFirst ':' rest with
      | none => .error (.noPredicate (String.ofList key) (String.ofList rest))
      | some (name, operand) =>
          if key.isEmpty then .error .emptyKey
          else
            match Predicate.ofName (String.ofList name) with
            | none => .error (.unknownPredicate (String.ofList name))
            | some predicate =>
                match operandOfText (String.ofList operand) with
                | .error e => .error (.noValue e)
                | .ok value => .ok ⟨String.ofList key, predicate, value⟩

end StartStep
