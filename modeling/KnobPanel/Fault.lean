/-!
# Faults

What a collaborator of the controller reports when it could not do its work.
No fault is fatal: callers retry on a later tick or fall back to defaults.
-/

namespace KnobPanel

inductive Fault where
  /-- The lighting controller holds its busy line; the command was parked. -/
  | lightingBusy
  /-- A transfer to the lighting controller failed. -/
  | bus
  | storage
  | sensor
  deriving DecidableEq

end KnobPanel
