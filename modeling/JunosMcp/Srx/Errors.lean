import JunosMcp.Errors
import JunosMcp.Json

/-!
# Errors of the SRX workflows
-/

namespace JunosMcp.Srx

inductive SrxError where
  | transport (error : JmcpError)
  | rpc (tag severity message : Text)
  | parse (message : Text)
  | schemaMismatch (rpc element : String)
  | invalidInput (message : Text)
  | signaturePackageConfirmationRequired (router : Text) (plan : Json)
  | signaturePackageConfirmationTokenRequired (router : Text)
  | signaturePackageConfirmationTokenInvalid (router reason : Text)
  | signaturePackageConfirmationPlanDrift (router : Text)
  | signaturePackageConfirmationCapacityExceeded (router : Text)
  | signaturePackageLicenseInactive (router feature : Text)
  | signaturePackageServerUnreachable (router detail : Text)
  | signaturePackageNoRollbackTarget (router : Text)
  | signaturePackageNoUninstallTarget (router : Text)
  | signaturePackageClusterDesynced (router state : Text)
  | signaturePackageDownloadFailed (router detail : Text)
  | signaturePackageInstallFailed (router detail : Text)
  | signaturePackageVerificationFailed (router expected got : Text)
  | signaturePackagePollTimeout (router action : Text) (elapsedSecs : Nat)
  | resolutionCycle (router name chain : Text)
  | resolutionDepthExceeded (router name : Text) (maxDepth : Nat)
  | resolutionNameNotFound (router name book : Text)
  | clusterHealthCheckTimeout (router : Text) (elapsedSecs : Nat)
  | bundlePerRouterContention (router : Text)
  | bundleConfigCaptureFailed (router detail : Text)
  | bundleRpcSubsetFailed (router : Text) (failedCount totalCount : Nat) (firstError : Text)

end JunosMcp.Srx
