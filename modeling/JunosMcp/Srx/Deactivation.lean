import JunosMcp.Srx.ApplicationPrecedence
import JunosMcp.Srx.NatHitCounts
import JunosMcp.Srx.ResolveAddress
import Mathlib.Data.List.ReduceOption

/-!
# What is reported as active

An entry is active when its own element is not deactivated, a rule also its rule-set and a term also
its application. What else encloses the element, and how the walk came to it, makes no difference.
-/

namespace JunosMcp.Srx

open Lib

/-! ## Rules -/

namespace ListNatRules

def NatRules.digests (rules : NatRules) : NatKind → List (RuleKey × Option Nat × Bool)
  | .source => rules.source.map NatRule.digest
  | .destination => rules.destination.map NatRule.digest
  | .staticNat => rules.staticNat.map NatRule.digest

variable {crates : ConfigCrates}

end ListNatRules

/-! ## Addresses -/

namespace ResolveAddress

variable {crates : ConfigCrates} {ipNet : Text → Option IpNet} {document : XmlDocument}

end ResolveAddress

/-! ## Applications -/

namespace ResolveApplication

variable {document : XmlDocument} {table : List JunosDefaultEntry}

end ResolveApplication

/-! ## The three tools -/

namespace ListNatRules

end ListNatRules

namespace ResolveAddress

end ResolveAddress

namespace ResolveApplication

end ResolveApplication

end JunosMcp.Srx
