import JunosMcp.Text

/-!
# Token scopes

What a caller's token lets it call, and on which devices. Without a caller context, as on stdio,
everything is in scope.
-/

namespace JunosMcp

/-- The token behind a call, with its two scope sets. -/
structure CallerCtx where
  tokenName : Text
  allowsTool : Text → Bool
  allowsDevice : Text → Bool

inductive ScopeError where
  | toolNotInScope (token tool : Text)
  | routerNotInScope (token router tool : Text)
  deriving DecidableEq

def ScopeError.display : ScopeError → Text
  | .toolNotInScope token tool =>
      "token '".toList ++ token ++ "' is not authorized for tool '".toList ++ tool ++ "'".toList
  | .routerNotInScope token router tool =>
      "token '".toList ++ token ++ "' is not authorized for router '".toList ++ router ++
        "' (tool '".toList ++ tool ++ "')".toList

def checkToolScope (ctx : Option CallerCtx) (tool : Text) : Except ScopeError Unit :=
  match ctx with
  | none => .ok ()
  | some ctx => if ctx.allowsTool tool then .ok () else .error (.toolNotInScope ctx.tokenName tool)

def inScope (ctx : Option CallerCtx) (router : Text) : Bool :=
  match ctx with
  | none => true
  | some ctx => ctx.allowsDevice router

def checkRouterScope (ctx : Option CallerCtx) (tool router : Text) : Except ScopeError Unit :=
  match ctx with
  | none => .ok ()
  | some ctx =>
      if ctx.allowsDevice router then .ok ()
      else .error (.routerNotInScope ctx.tokenName router tool)

end JunosMcp
