import PlumeForm.WindowFeatures

/-!
# The window around the page

The window opens other windows and shows messages; both are recorded, first one first.
-/

namespace PlumeForm

/-- The windows that were opened and the messages that were shown. -/
structure Window where
  opened : List WindowRequest := []
  alerts : List String := []
deriving DecidableEq, Repr

namespace Window

/-- The window after it opened another one. -/
def popUp (window : Window) (request : WindowRequest) : Window :=
  { window with opened := window.opened ++ [request] }

/-- The window after it showed a message. -/
def alert (window : Window) (message : String) : Window :=
  { window with alerts := window.alerts ++ [message] }

/-- The recorded requests, and the window that has forgotten them. -/
def takeOpened (window : Window) : List WindowRequest × Window :=
  (window.opened, { window with opened := [] })

/-- The recorded messages, and the window that has forgotten them. -/
def takeAlerts (window : Window) : List String × Window :=
  (window.alerts, { window with alerts := [] })

end Window

end PlumeForm
