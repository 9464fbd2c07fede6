/- digest: Test suites: cases with steps and datasets, and the values that all cases share. -/

import Assay.Step.Basic

set_option autoImplicit false
set_option relaxedAutoImplicit false

namespace Assay

/-- Values for one run of a case. -/
structure Dataset where
  name : String
  values : Members Json
  deriving Inhabited

/-- A test case: it runs once for each dataset, or once without any. -/
structure TestCase where
  name : String
  description : Option String
  steps : List Step
  datasets : List Dataset
  deriving Inhabited

/-- A suite of test cases, with the sources of its templates. -/
structure Suite where
  version : Option String
  givenName : Option String
  description : Option String
  sources : List String
  env : Members Json
  globals : Members Json
  tests : List TestCase
  deriving Inhabited

namespace Suite

def name (s : Suite) : String := s.givenName.getD "unnamed suite"

end Suite

end Assay
