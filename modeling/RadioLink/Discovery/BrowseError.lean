import RadioLink.Error

/-!
Failures of browsing the local network for services.
-/

set_option autoImplicit false

namespace RadioLink

inductive BrowseError where
  | described (text : String)
  | tryAgain
  | notAnAddress (text : String)
  deriving DecidableEq, Repr

namespace BrowseError

private def message : BrowseError → String
  | .described text => text
  | .tryAgain => "try again"
  | .notAnAddress text => "parsing of ip addr failed, reason: " ++ text

/-- A failure of browsing is a failure of discovery. -/
def toLinkError (error : BrowseError) : LinkError :=
  .discoveryFailed error.message

end BrowseError

end RadioLink
