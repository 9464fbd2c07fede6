/- digest: Requests and responses as they are sent and received. -/

import Assay.Json.Draft
import Assay.Text.Casing
import Assay.Text.Letter

set_option autoImplicit false
set_option relaxedAutoImplicit false

namespace Assay.Http

/-- Names and values in order; names may come twice. -/
abbrev Headers := List (String × String)

/-- A file that is sent in a form. -/
structure FormFile where
  field : String
  fileName : String
  content : ByteArray

/-- What a request carries. -/
inductive Body
  | empty
  | json (value : Json)
  | text (value : String)
  | bytes (content : ByteArray)
  | form (fields : List (String × String)) (files : List FormFile)

/-- A request with all tokens resolved. -/
structure Request where
  method : String
  url : String
  headers : Headers
  body : Body

/-- A response; the time that it took is in microseconds. -/
structure Response where
  status : Nat
  headers : Headers
  body : String
  microseconds : Nat

/-- Answers a request, given the requests before it, or says why there is no answer. -/
abbrev Transport := List Request → Request → Except String Response

/-- What comes of fetching the text at an address. -/
inductive Fetched
  | text (text : String)
  /-- There is no answer, or one that tells of no success. -/
  | missed (why : String)
  /-- There is an answer, but its text cannot be read. -/
  | unread (why : String)

/-- The first value of a header, by its name in any case. -/
def Request.header? (r : Request) (name : String) : Option String :=
  (r.headers.find? fun h => Text.sameIgnoringPlainCase h.1 name).map (·.2)

/-- Headers as an object; the last of a name stands in the place of the first. -/
def headerObject (headers : Headers) : Json :=
  .object (Members.putAll [] (headers.map fun h => (h.1, Json.string h.2)))

/-- What is said of a body in the root for the last response. -/
def Body.summary : Body → Json
  | .empty => .null
  | .json v => v
  | .text s => .string s
  | .bytes content => .object [("bytes", .nat content.size)]
  | .form fields files =>
    .object [("fields", headerObject fields),
      ("files", .array (files.map fun f => .object [("field", .string f.field),
        ("fileName", .string f.fileName), ("bytes", .nat f.content.size)]))]

def Request.summary (r : Request) : Json :=
  .object [("method", .string r.method), ("url", .string r.url), ("headers", headerObject r.headers),
    ("body", r.body.summary)]

def Response.milliseconds (r : Response) : Nat := r.microseconds / 1000

def Response.toJson (r : Response) (request : Json) : Json :=
  .object [("status", .nat r.status), ("headers", headerObject r.headers),
    ("body", Json.readOrText r.body), ("duration", .nat r.milliseconds), ("request", request)]

def isMethodChar (c : Char) : Bool :=
  Text.isPlainAlphanumeric c || ['!', '#', '$', '%', '&', '\'', '*', '+', '-', '.', '^', '_', '\x60',
    '|', '~'].contains c

def isMethod (text : String) : Bool :=
  let method := Text.upper text
  !method.isEmpty && method.toList.all isMethodChar

end Assay.Http
