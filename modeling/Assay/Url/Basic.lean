/- digest: Addresses: their parts, their written form, and the fields of their queries. -/

import Assay.Text.Percent
import Assay.Text.Search

set_option autoImplicit false
set_option relaxedAutoImplicit false

namespace Assay

/-- What follows the scheme and the host: any text, or parts between slashes. -/
inductive UrlPath
  | opaqueText (text : String)
  | parts (segments : List String)
  deriving DecidableEq

/-- An address. The host comes with user name and port as they are written. -/
structure Url where
  scheme : String
  authority : Option String
  path : UrlPath
  query : Option String
  fragment : Option String
  deriving DecidableEq

namespace Url

/-- The written path; two slashes at its start would be taken for a host. -/
def pathText (u : Url) : String :=
  match u.path with
  | .opaqueText text => text
  | .parts segments =>
    let text := String.join (segments.map fun s => "/" ++ s)
    if u.authority.isNone && Text.startsWith text "//" then "/." ++ text else text

def render (u : Url) : String :=
  u.scheme ++ ":" ++ (match u.authority with
    | some a => "//" ++ a
    | none => "") ++ u.pathText ++
    (match u.query with
      | some q => "?" ++ q
      | none => "") ++
    (match u.fragment with
      | some f => "#" ++ f
      | none => "")

/-- Appends fields to the query; an address without a query gets one. -/
def withFields (u : Url) (fields : List (String × String)) : Url :=
  let start := u.query.getD ""
  let texts := fields.map fun f => Text.formText f.1 ++ "=" ++ Text.formText f.2
  { u with query := some (texts.foldl (fun q t => if q.isEmpty then t else q ++ "&" ++ t) start) }

end Url

end Assay
