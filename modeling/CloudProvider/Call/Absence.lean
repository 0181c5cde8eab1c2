import CloudProvider.Effect
import CloudProvider.Settings.Basic

/-!
Whether a failed look-up says that there is nothing to be found. To those who authenticate the control
plane denies what is out of their reach, which to them does not exist.
-/

namespace CloudProvider

def CloudFault.reportsAbsence (fault : CloudFault) (settings : ControlPlaneSettings) : Bool :=
  fault.isNotFound || fault.isForbidden && settings.hasCredentials

/-- Whether a look-up finds something. `what` is what it looks for, in the log. -/
def Call.exists (settings : Settings) (what : String) (lookUp : Operation) : Call Bool := do
  match ← Call.attempt lookUp with
  | .ok _ => return true
  | .error fault =>
    if fault.reportsAbsence settings.controlPlane then
      Call.info s!"{what} reported absent: {fault.message}"
      return false
    else Call.fail (.cloud fault)

end CloudProvider
