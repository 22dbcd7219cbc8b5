/-!
# Where the frames go

The scripts and pages that the form opens. A target of a previous run carries the run's directory
and the session in its query, exactly as they are given: nothing in them is encoded.
-/

namespace PlumeForm

/-- The scripts and pages of the server, relative to the page that holds the form. -/
structure EndpointPaths where
  runParamsScript : String := "runParams.pl"
  ashxpOptionsScript : String := "ashxpOptions.pl"
  mapOptionsScript : String := "mapOptions.pl"
  placeholderImage : String := "pix/puff_bg.gif"
deriving DecidableEq, Repr

/-- A place that a frame or a window can be sent to. -/
inductive Endpoint where
  /-- The run form, filled in as for an earlier run. -/
  | runParams (previous session : String)
  /-- The display options of an earlier run. -/
  | ashxpOptions (previous session : String)
  /-- The map options. -/
  | mapOptions
  /-- The picture shown while there is no result. -/
  | placeholder
deriving DecidableEq, Repr

/-- The target of a script for a run directory and a session. -/
def sessionQuery (script previous session : String) : String :=
  script ++ "?previous=" ++ previous ++ "&sessionID=" ++ session

/-- The target of an endpoint. -/
def Endpoint.target (paths : EndpointPaths) : Endpoint → String
  | runParams previous session => sessionQuery paths.runParamsScript previous session
  | ashxpOptions previous session => sessionQuery paths.ashxpOptionsScript previous session
  | mapOptions => paths.mapOptionsScript
  | placeholder => paths.placeholderImage

end PlumeForm
