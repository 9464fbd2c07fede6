/- digest: Queries over the namespace: an expression that begins with a plain root name is followed
   in that root alone, any other in the snapshot of all roots. -/

import Assay.Context.Basic
import Assay.Selector.Cursor

set_option autoImplicit false
set_option relaxedAutoImplicit false

namespace Assay

/-- Why a query has no answer. -/
inductive QueryError
  | rootSignMissing (expression : String)
  | selection (expression : String) (why : Selector.SelectError)
  deriving DecidableEq

def QueryError.message : QueryError → String
  | .rootSignMissing e => "path '" ++ e ++ "' must start with '$'"
  | .selection e why => "invalid path '" ++ e ++ "': " ++ why.message

namespace Context

/-- A plain root name after `$.`, and what follows it. -/
def splitRoot? (expression : String) : Option (String × String) :=
  match expression.toList with
  | '$' :: '.' :: body =>
    match body.takeWhile Text.isNameChar with
    | [] => none
    | name => some (String.ofList name, String.ofList (body.dropWhile Text.isNameChar))
  | _ => none

/-- The values that an expression selects; none where it names a root that is not there. -/
def query (c : Context) (text : String) : Except QueryError (List Json) :=
  let expression := Text.trim text
  if !Text.startsWith expression "$" then .error (.rootSignMissing expression)
  else
    let selected : Except Selector.SelectError (List Json) :=
      match splitRoot? expression with
      | some (root, tail) =>
        match c.root? root with
        | none => .ok []
        | some tree => Selector.select tree ("$" ++ tail)
      | none => Selector.select c.snapshot expression
    selected.mapError (.selection expression)

end Context

end Assay
