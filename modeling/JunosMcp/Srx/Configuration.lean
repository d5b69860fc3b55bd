import JunosMcp.IpAddr
import JunosMcp.Srx.Device
import JunosMcp.Srx.Fields

/-!
# Parts of the configuration

`config_fetch.rs`: a subtree of the configuration, with what groups bring in.
-/

namespace JunosMcp.Srx

open Lib

structure IpNet where
  addr : IpAddr
  prefixLen : Nat
deriving DecidableEq

/-- What reading configuration takes from other crates. -/
structure ConfigCrates extends XmlCrates where
  /-- `IpNet::from_str`. -/
  ipNet : Text → Option IpNet

def getConfigurationEnvelope (filterInner : String) : String :=
  "<get-configuration inherit=\"inherit\"><configuration>" ++ filterInner ++
    "</configuration></get-configuration>"

def getConfigurationSubtree (filterInner : String) : DeviceProg Text :=
  callXml (getConfigurationEnvelope filterInner)

def configurationRpc : String := "get-configuration"

end JunosMcp.Srx
