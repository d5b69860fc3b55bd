import JunosMcp.DeviceManager
import JunosMcp.Scope
import JunosMcp.Srx.PackageVerification

/-!
# The signature-package tools of the server

A call is authorized, its device identified, and its token looked up before a device is opened.
The workflow then looks the token up again. Audit records are left out, and an error is kept as it
is instead of in the words of the protocol.
-/

namespace JunosMcp.Srx

open Lib Package

/-! ## Authorization -/

inductive SrxScopeError where
  | missingCallerContext
  | toolNotInScope (token tool : Text)
  | routerNotInScope (token tool : Text)
deriving DecidableEq

/-- The requested router is not named. -/
def SrxScopeError.display : SrxScopeError → Text
  | .missingCallerContext =>
      ("[code=authorization_context_missing] authenticated request is missing " ++
        "authorization context").toList
  | .toolNotInScope token tool =>
      "[code=tool_scope_denied] token '".toList ++ token ++
        "' is not authorized for tool '".toList ++ tool ++ "'".toList
  | .routerNotInScope token tool =>
      "[code=router_scope_denied] token '".toList ++ token ++
        "' is not authorized for the requested router (tool '".toList ++ tool ++ "')".toList

def checkSrxToolScope (ctx : Option CallerCtx) (tool : Text) : Except SrxScopeError Unit :=
  match ctx with
  | none => .ok ()
  | some ctx => if ctx.allowsTool tool then .ok () else .error (.toolNotInScope ctx.tokenName tool)

def checkSrxRouterScope (ctx : Option CallerCtx) (tool router : Text) :
    Except SrxScopeError Unit :=
  match ctx with
  | none => .ok ()
  | some ctx =>
      if ctx.allowsDevice router then .ok () else .error (.routerNotInScope ctx.tokenName tool)

/-- A call without a context is let in only where the server was started without authentication. -/
def authorizeCall (authorizationRequired : Bool) (ctx : Option CallerCtx) (tool : Text)
    (router : Option Text) : Except SrxScopeError (Option CallerCtx) :=
  if authorizationRequired && ctx.isNone then .error .missingCallerContext
  else do
    checkSrxToolScope ctx tool
    router.elim (.ok ()) (checkSrxRouterScope ctx tool)
    return ctx

/-! ## The device a token is bound to -/

def identityOf (router : Text) (entry : DeviceEntry) : Text :=
  router ++ '|' :: (entry.ip ++ '|' :: ((Nat.repr entry.port).toList ++ '|' :: entry.username))

def deviceIdentity (inventory : Inventory) (router : Text) : Except JmcpError Text :=
  (inventory.get router).map (identityOf router)

/-! ## The tools -/

inductive ManageOp where
  /-- `DeviceManager::inventory`. -/
  | inventory
  /-- `DeviceManager::open`. -/
  | openDevice (router : Text)
  | package (op : PackageOp)

abbrev ManageAnswer : ManageOp → Type
  | .inventory => Inventory
  | .openDevice _ => Except JmcpError Unit
  | .package op => PackageAnswer op

inductive ManageError where
  | scope (error : SrxScopeError)
  | identity (error : JmcpError)
  | opening (error : JmcpError)
  | workflow (error : SrxError)

abbrev ManageProg (α : Type) := Prog ManageOp ManageAnswer (Except ManageError α)

structure PackageRequest where
  ctx : Option CallerCtx
  tool : PackageTool
  args : PackageArgs
  requestId : Text

def PackageTool.name : PackageTool → Text
  | .idp _ => "manage_idp_security_package".toList
  | .appid _ => "manage_appid_signature_package".toList

def PackageTool.isCheckServer : PackageTool → Bool
  | .idp action => action == .checkServer
  | .appid action => action == .checkServer

def onPackage {α : Type} (p : PackageProg α) : ManageProg α :=
  (p.relabel ManageOp.package fun _ answer => answer).bind fun result =>
    .pure (result.mapError .workflow)

def validateConfirmationRequest (args : PackageArgs) (caller : PackageCaller) :
    PackageProg Unit :=
  Prog.andThen (.pure (confirmationTokenForRequest args.confirm args.confirmationToken
      args.router)) fun
    | none => .pure (.ok ())
    | some token => .step (.validateBinding token (bindingOf args caller)) fun validated =>
        (orRefused args validated).andThen fun _ => .pure (.ok ())

/-- What is behind the authorization. -/
def managePackage (crates : LicenseCrates) (request : PackageRequest) :
    ManageProg PackageResponse :=
  .step .inventory fun inventory =>
    Prog.andThen (.pure ((deviceIdentity inventory request.args.router).mapError .identity))
      fun identity =>
        let caller := ⟨request.ctx.map CallerCtx.tokenName, identity, request.requestId⟩
        (onPackage (if request.tool.isCheckServer then .pure (.ok ())
            else validateConfirmationRequest request.args caller)).andThen fun _ =>
          .step (.openDevice request.args.router) fun opened =>
            Prog.andThen (.pure (Except.mapError .opening opened)) fun _ =>
              onPackage (request.tool.run crates request.args caller)

/-- The handler of both tools. -/
def manageSecurityPackage (crates : LicenseCrates) (authorizationRequired : Bool)
    (request : PackageRequest) : ManageProg PackageResponse :=
  match authorizeCall authorizationRequired request.ctx request.tool.name
      (some request.args.router) with
  | .error error => .pure (.error (.scope error))
  | .ok _ => managePackage crates request

def manageIdpSecurityPackage (crates : LicenseCrates) (authorizationRequired : Bool)
    (ctx : Option CallerCtx) (args : PackageArgs) (action : IdpAction) (requestId : Text) :
    ManageProg PackageResponse :=
  manageSecurityPackage crates authorizationRequired ⟨ctx, .idp action, args, requestId⟩

def manageAppidSignaturePackage (crates : LicenseCrates) (authorizationRequired : Bool)
    (ctx : Option CallerCtx) (args : PackageArgs) (action : AppidAction) (requestId : Text) :
    ManageProg PackageResponse :=
  manageSecurityPackage crates authorizationRequired ⟨ctx, .appid action, args, requestId⟩

end JunosMcp.Srx
