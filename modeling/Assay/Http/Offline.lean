/- digest: A transport without a network: requests that no network would carry are refused as such,
   and nobody answers the others. -/

import Assay.Http.Message
import Assay.Url.Read

set_option autoImplicit false
set_option relaxedAutoImplicit false

namespace Assay.Http

def refusedMethod (text : String) : String := "invalid HTTP method '" ++ text ++ "'"

def schemes : List String := ["http", "https"]

def unreached (address : String) : String :=
  match Url.read address with
  | .error e => "builder error: " ++ e.message
  | .ok url =>
    if !schemes.contains url.scheme then
      "builder error for url (" ++ url.render ++ "): URL scheme is not allowed"
    else
      "error sending request for url (" ++ url.render ++
        "): client error (Connect): tcp connect error: Connection refused (os error 111)"

def offlineRefusal (r : Request) : String :=
  if !isMethod r.method then refusedMethod r.method
  else "failed to send request: " ++ unreached r.url

def Transport.offline : Transport := fun _ r => .error (offlineRefusal r)

def Fetched.offline (address : String) : Fetched := .missed (unreached address)

end Assay.Http
