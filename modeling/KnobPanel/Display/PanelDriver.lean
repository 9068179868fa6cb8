import KnobPanel.Display.Frame

/-!
# Driver of the panel's controller

The controller of the panel has a memory of its own and shows it. It is reached over a
bus, and a request may be lost there or carried out in part only: the driver answers
whether a request got through.
-/

namespace KnobPanel

structure PanelController where
  memory : Frame := .dark
  contrast : UInt8 := 95
  precharge : UInt8 := 33
  on : Bool := true
  inverted : Bool := false

inductive PanelRequest where
  | start
  | brightness (precharge contrast : UInt8)
  | inversion (inverted : Bool)
  | power (on : Bool)
  | flush (frame : Frame)

/-- The answer to a request, and what it leaves of the controller, may depend on all that
was asked and answered before, the newest first. -/
structure PanelDriver where
  ask : List (PanelRequest × Bool) → PanelRequest → PanelController → Bool × PanelController

def PanelRequest.carriedOut (controller : PanelController) : PanelRequest → PanelController
  | start => { memory := controller.memory }
  | brightness precharge contrast => { controller with precharge, contrast }
  | inversion inverted => { controller with inverted }
  | power on => { controller with on }
  | flush frame => { controller with memory := frame }

def PanelDriver.prompt : PanelDriver where
  ask _ request controller := (true, request.carriedOut controller)

end KnobPanel
