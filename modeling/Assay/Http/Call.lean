/- digest: The request that a step describes, before its tokens are resolved. -/

import Assay.Json.Basic

set_option autoImplicit false
set_option relaxedAutoImplicit false

namespace Assay.Http

/-- A request as a document describes it. -/
structure Call where
  method : String
  url : String
  query : Members Json
  headers : Members Json
  body : Option Json
  /-- A file that is sent as it is. -/
  file : Option String
  /-- Files by the form field that they are sent in. -/
  formFiles : Members String
  contentType : Option String
  deriving Inhabited

end Assay.Http
