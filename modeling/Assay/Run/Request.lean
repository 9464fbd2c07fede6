/- digest: Sending the request of a step: its tokens are resolved, its body and type of content are
   chosen, and the response becomes the root for the last response. -/

import Assay.Run.Time
import Assay.Url.Read

set_option autoImplicit false
set_option relaxedAutoImplicit false

namespace Assay

def Http.refusedUrl (text : String) (e : UrlError) : String :=
  "invalid url '" ++ text ++ "': " ++ e.message

namespace Http

def contentTypeName : String := "Content-Type"

def isContentType (h : String × String) : Bool := Text.sameIgnoringPlainCase h.1 contentTypeName

def setContentType (type : String) (headers : Headers) : Headers :=
  headers.filter (!isContentType ·) ++ [(contentTypeName, type)]

def addContentType (asked : Option String) (type : String) (headers : Headers) : Headers :=
  match asked with
  | some _ => headers
  | none => headers ++ [(contentTypeName, type)]

def isJsonType : Option String → Bool
  | some type => Text.contains (Text.lower type) "json"
  | none => false

/-- The fields of a query that a value gives for a name: one for each item of a list. -/
def queryFields (name : String) : Json → List (String × String)
  | .array items => items.map fun v => (name, v.plainText)
  | v => [(name, v.plainText)]

def sentName (path : String) : String := (FilePath.fileName? path).getD "file"

/-- What a value is sent as, with the headers for it. -/
def chooseBody (asked : Option String) (headers : Headers) : Option Json → Body × Headers
  | none => (.empty, headers)
  | some .null => (.empty, headers)
  | some (.string s) =>
    if isJsonType asked then (.json (.string s), addContentType asked "application/json" headers)
    else (.text s, headers)
  | some v => (.json v, addContentType asked "application/json" headers)

end Http

namespace Exec

open Http

def readQuery : Members Json → Exec (List (String × String))
  | [] => pure []
  | (name, v) :: rest => do
    let fields := queryFields name (← resolveValue v)
    let others ← readQuery rest
    return fields ++ others

/-- The URL of a request; only one with a query has to be well formed. -/
def buildUrl (url : String) (query : Members Json) : Exec String := do
  if (Text.trim url).isEmpty then complain "request url is empty"
  else if query.isEmpty then pure url
  else match Url.read url with
    | .error e => complain (refusedUrl url e)
    | .ok parsed =>
      let fields ← readQuery query
      return (parsed.withFields fields).render

def readHeaders : Members Json → Exec Headers
  | [] => pure []
  | (name, v) :: rest => do
    let text := (← resolveValue v).plainText
    let others ← readHeaders rest
    return (name, text) :: others

def readFile (path : String) : Exec ByteArray := do
  match (← surroundings).files.read path with
  | .ok content => pure content
  | .error e => complain ("failed to read file " ++ path ++ ": " ++ e.message)

def locate (file : String) : Exec String := do
  return FilePath.join (← surroundings).folder (← resolveText file)

def readFormFiles : Members String → Exec (List FormFile)
  | [] => pure []
  | (field, file) :: rest => do
    let path ← locate file
    let content ← readFile path
    let others ← readFormFiles rest
    return ⟨field, sentName path, content⟩ :: others

def readBody : Option Json → Exec (Option Json)
  | none => pure none
  | some v => do return some (← resolveValue v)

/-- The body of a request and its headers: a form with files, a single file, or a value. -/
def buildBody (call : Call) (asked : Option String) (headers : Headers) :
    Exec (Body × Headers) := do
  if !call.formFiles.isEmpty then
    let fields ← match ← readBody call.body with
      | some (.object members) => pure (members.map fun m => (m.1, m.2.plainText))
      | some .null => pure []
      | none => pure []
      | some _ => complain "'body' must be an object when 'formFiles' is used"
    let files ← readFormFiles call.formFiles
    return (.form fields files, headers)
  else match call.file with
    | some file =>
      let content ← readFile (← locate file)
      return (.bytes content, addContentType asked "application/octet-stream" headers)
    | none => return chooseBody asked headers (← readBody call.body)

/-- The type of content that a call asks for, unless that is empty. -/
def readContentType : Option String → Exec (Option String)
  | none => pure none
  | some type => do
    let type ← resolveText type
    return if type.isEmpty then none else some type

def buildRequest (call : Call) : Exec Request := do
  let method := Text.upper (Text.trim (← resolveText call.method))
  let url ← buildUrl (← resolveText call.url) call.query
  let headers ← readHeaders call.headers
  let asked ← readContentType call.contentType
  let headers := match asked with
    | some type => setContentType type headers
    | none => headers
  let (body, headers) ← buildBody call asked headers
  return ⟨method, url, headers, body⟩

def send (request : Request) : Exec Response := do
  let w ← surroundings
  let before := (← get).sent
  modify fun s => { s with sent := before ++ [request] }
  let delay := w.latency before request
  if delay ≠ 0 then waitTo ((← get).now + delay)
  match w.transport before request with
  | .ok response => pure response
  | .error text => complain (request.method ++ " " ++ request.url ++ " failed: " ++ text)

end Exec

def Http.Call.run (call : Http.Call) : Exec Outcome := do
  let request ← Exec.buildRequest call
  let response ← Exec.send request
  Exec.writeRoot Context.thisRoot (response.toJson request.summary)
  return Outcome.passed.withDetails
    [("request", .object [("method", .string request.method), ("url", .string request.url)]),
      ("response", .object [("status", .nat response.status),
        ("durationMs", .nat response.milliseconds)])]

end Assay
