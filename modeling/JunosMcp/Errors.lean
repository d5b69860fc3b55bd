import JunosMcp.Text

/-!
# Errors

The variants of the device library's errors that the server tells apart, each with the text the
library prints for it, and the server's own errors with theirs.
-/

namespace JunosMcp

def asciiLowercase (text : Text) : Text := text.map Char.toLower

inductive ErrorTag where
  | operationFailed | invalidValue | missingElement | badElement | unknownElement
  | missingAttribute | badAttribute | unknownAttribute | dataMissing | dataExists
  | accessDenied | lockDenied | resourceDenied | operationNotSupported | inUse | tooBig
  | malformedMessage | rollbackFailed | unknownNamespace | other
  deriving DecidableEq

inductive RpcErrorKind where
  | serverError (tag : ErrorTag)
  | commitUnknown
  | parseError
  | other
  deriving DecidableEq

inductive NetconfErrorKind where
  | rpc (error : RpcErrorKind)
  | transport
  | framing
  | protocol
  | other
  deriving DecidableEq

inductive RustEzErrorKind where
  | netconf (error : NetconfErrorKind)
  | sshConfig
  | facts
  | config
  | xmlParse
  | other
  deriving DecidableEq

/-- An error of the device library: its variant and its `Display` text. -/
structure RustEzError where
  kind : RustEzErrorKind
  display : Text
  deriving DecidableEq

/-- A duration in whole seconds. -/
abbrev Duration := Nat

/-- A duration as `{:?}` prints it. -/
def Duration.debug (duration : Duration) : Text := (Nat.repr duration).toList ++ ['s']

inductive JmcpError where
  | unknownRouter (router : Text)
  | inventoryInvalid (message : Text)
  | keyFileMissing (path : Text)
  | inventoryReadonly
  | deviceExists (name : Text)
  | passwordAuthDisabled
  | invalidDeviceName (name : Text)
  | invalidDeviceIp (ip : Text)
  | invalidDevicePort (port : Nat)
  | missingArguments (names : List Text)
  | inventoryDriftedOnDisk
  | emptyInventory
  | inventoryRead (message : Text)
  | inventoryParse (message : Text)
  | inventoryWrite (message : Text)
  | badPfeCommand (message : Text)
  | badFormat (format : Text)
  | badLoadMode (mode : Text)
  | overrideRequiresChangeSet (tool : Text)
  | overrideRequiresHumanApproval (tool : Text)
  | incompatibleFormatMode (format mode : Text)
  | badRollbackVersion (version : Int)
  | timeout (after : Duration)
  | cancelled
  | candidateCleanupFailed (primary rollback unlock : Text)
  | denied (tool router pattern ruleSource inputExcerpt : Text) (lineNumber : Option Nat)
  | deniedAllowlist (tool router reason inputExcerpt : Text)
  | allowlistEntryInvalid (scope entry reason : Text)
  | blocklistRuleInvalid (scope pattern source : Text)
  | configDomainAllowlistInvariant (tool router : Text)
  | planeOwnedDevice (tool device authority : Text)
  | directCommitDisabled (message : Text)
  | templateSyntax (message : Text)
  | templateVars (message : Text)
  | templateRender (message : Text)
  | templateFormatMismatch (format : Text)
  | badSourcePath (message : Text)
  | unsupportedAuth (router : Text)
  | destExistsDiffers (dest localSha remoteSha : Text)
  | scpFailed (exitCode : Int) (stderr : Text)
  | connectTimeout (router : Text)
  | hostKeyMismatch (router knownHostsFile : Text)
  | hostKeyRevoked (router knownHostsFile : Text)
  | knownHostsMissing (path : Text)
  | verifyMismatch (dest localSha remoteSha : Text)
  | localDestExistsDiffers (dest localSha remoteSha : Text)
  | remoteFileMissing (router remotePath : Text)
  | fetchVerifyMismatch (dest localSha remoteSha : Text)
  | transferOuterTimeout (after : Duration)
  | io (display : Text)
  | insufficientDisk (free required : Nat) (message : Text)
  | deviceProbeFailed (phase message : Text)
  | upgradeClusterUnsupported (router : Text)
  | upgradeCommitConfirmedActive (router : Text) (rollbackSecs : Nat)
  | upgradeOuterTimeout (after : Duration)
  | rustez (error : RustEzError)
  | validation (message : Text)
  | other (display : Text)
  deriving DecidableEq

/-- A list of plain names as `{:?}` prints it. -/
def debugNames (names : List Text) : Text :=
  "[".toList ++ ", ".toList.intercalate (names.map fun name => ['"'] ++ name ++ ['"']) ++ "]".toList

/-- `Display` for the server's errors. -/
def JmcpError.display : JmcpError → Text
  | .unknownRouter router => "router '".toList ++ router ++ "' not found in device mapping".toList
  | .inventoryInvalid message => "invalid devices.json: ".toList ++ message
  | .keyFileMissing path => "private key file not found: ".toList ++ path
  | .inventoryReadonly => "inventory is read-only (--inventory-readonly set)".toList
  | .deviceExists name => "device `".toList ++ name ++ "` already exists in the inventory".toList
  | .passwordAuthDisabled => ("password authentication is not allowed for add_device; use " ++
      "--allow-password-auth-add to enable").toList
  | .invalidDeviceName name =>
      "invalid device name `".toList ++ name ++ "`: must match ^[A-Za-z0-9_.-]+$".toList
  | .invalidDeviceIp ip => "invalid device IP/hostname `".toList ++ ip ++ "`".toList
  | .invalidDevicePort port => "invalid device port `".toList ++ (Nat.repr port).toList ++
      "`: must be in 1..=65535".toList
  | .missingArguments names => "missing required arguments: ".toList ++ debugNames names
  | .inventoryDriftedOnDisk => ("inventory file changed on disk between read and write; call " ++
      "reload_devices and retry").toList
  | .emptyInventory => "inventory is empty (no devices)".toList
  | .inventoryRead message => "inventory file read error: ".toList ++ message
  | .inventoryParse message => "inventory parse error: ".toList ++ message
  | .inventoryWrite message => "inventory file write error: ".toList ++ message
  | .badPfeCommand message => "invalid pfe_command: ".toList ++ message
  | .badFormat format =>
      "invalid config_format '".toList ++ format ++ "' (expected set, text, or xml)".toList
  | .badLoadMode mode =>
      "invalid mode '".toList ++ mode ++ "' (expected merge, replace, or override)".toList
  | .overrideRequiresChangeSet tool =>
      "refused: mode=override on '".toList ++ tool ++ ("' is refused because this tool commits " ++
        "directly with no second-principal review. Route the change through " ++
        "create_junos_change_set → approve_junos_change_set → " ++
        "apply_junos_change_set instead.").toList
  | .overrideRequiresHumanApproval tool =>
      "refused: mode=override on '".toList ++ tool ++ ("' is refused while this server runs in " ++
        "lab mode, because lab mode waives approval and override has no other path to a human " ++
        "approver").toList
  | .incompatibleFormatMode format mode =>
      "mode '".toList ++ mode ++ "' is not compatible with config_format '".toList ++ format ++
        "'".toList
  | .badRollbackVersion version =>
      "rollback version ".toList ++ version.repr.toList ++ " out of range (0..=49)".toList
  | .timeout after => "operation timed out after ".toList ++ after.debug
  | .cancelled => "operation cancelled by client [code=cancelled]".toList
  | .candidateCleanupFailed primary rollback unlock =>
      "candidate cleanup failed [code=candidate_cleanup_failed]: primary=".toList ++ primary ++
        "; rollback=".toList ++ rollback ++ "; unlock=".toList ++ unlock
  | .denied tool router pattern ruleSource inputExcerpt _ =>
      "denied by blocklist: ".toList ++ tool ++ " on '".toList ++ router ++
        "' matched rule '".toList ++ pattern ++ "' (action=deny, source=".toList ++ ruleSource ++
        "); input: ".toList ++ inputExcerpt
  | .deniedAllowlist tool router reason inputExcerpt =>
      "denied by allowlist: ".toList ++ tool ++ " on '".toList ++ router ++ "': ".toList ++ reason ++
        "; input: ".toList ++ inputExcerpt
  | .allowlistEntryInvalid scope entry reason =>
      "invalid allowlist entry for ".toList ++ scope ++ ": entry '".toList ++ entry ++
        "' ".toList ++ reason
  | .blocklistRuleInvalid scope pattern source =>
      "invalid blocklist rule for ".toList ++ scope ++ ": pattern '".toList ++ pattern ++
        "': ".toList ++ source
  | .configDomainAllowlistInvariant tool router =>
      "policy invariant violated: ".toList ++ tool ++ " on '".toList ++ router ++
        ("': check_config returned DenyAllowlist, which the config domain must never " ++
          "produce").toList
  | .planeOwnedDevice tool device authority =>
      "refused: ".toList ++ tool ++ " on '".toList ++ device ++ "' is owned by ".toList ++
        authority ++ (". Changes to plane-owned devices are overwritten at the next push. Use " ++
          "--allow-plane-owned-writes to permit this operation with a warning.").toList
  | .directCommitDisabled message => message
  | .templateSyntax message => "template syntax error: ".toList ++ message
  | .templateVars message => "template vars parse error: ".toList ++ message
  | .templateRender message => "template render error: ".toList ++ message
  | .templateFormatMismatch format =>
      "template format `".toList ++ format ++
        "` not allowed: device has config rules; use `set`".toList
  | .badSourcePath message => "invalid source_path [code=bad_source_path]: ".toList ++ message
  | .unsupportedAuth router =>
      "unsupported auth [code=unsupported_auth]: device '".toList ++ router ++
        ("' uses password auth; transfer_file requires ssh_key (add SshKey to " ++
          "inventory)").toList
  | .destExistsDiffers dest localSha remoteSha =>
      "destination already exists with different content [code=dest_exists_differs]: ".toList ++
        dest ++ " (local sha256=".toList ++ localSha ++ ", remote sha256=".toList ++ remoteSha ++
        "); pass force=true to overwrite".toList
  | .scpFailed exitCode stderr =>
      "scp failed [code=scp_failed] (exit=".toList ++ exitCode.repr.toList ++ "): ".toList ++ stderr
  | .connectTimeout router =>
      "scp connect timeout [code=connect_timeout]: device '".toList ++ router ++
        "' may be unreachable or SSH (port 22) is filtered".toList
  | .hostKeyMismatch router knownHostsFile =>
      "host key verification failed [code=host_key_mismatch]: router '".toList ++ router ++
        "' was rejected; review or refresh the entry in ".toList ++ knownHostsFile
  | .hostKeyRevoked router knownHostsFile =>
      "host key revoked [code=host_key_revoked]: router '".toList ++ router ++
        "' key is marked @revoked in ".toList ++ knownHostsFile ++
        "; the key is compromised and must not be trusted".toList
  | .knownHostsMissing path =>
      "known_hosts file missing or unreadable [code=known_hosts_missing]: ".toList ++ path ++
        ("; run scripts/scan-known-hosts.sh to pre-populate it, or pass " ++
          "--ssh-accept-new-host-keys (lab only)").toList
  | .verifyMismatch dest localSha remoteSha =>
      "post-transfer verify failed [code=verify_mismatch]: ".toList ++ dest ++
        " (local sha256=".toList ++ localSha ++ ", remote sha256=".toList ++ remoteSha ++
        "); destination file was deleted".toList
  | .localDestExistsDiffers dest localSha remoteSha =>
      "[code=local_dest_exists_differs] local destination '".toList ++ dest ++
        "' exists with sha256 '".toList ++ localSha ++ "'; remote sha256 is '".toList ++
        remoteSha ++ "'; set force=true to overwrite".toList
  | .remoteFileMissing router remotePath =>
      "[code=remote_file_missing] router '".toList ++ router ++ "' has no file at '".toList ++
        remotePath ++ "'".toList
  | .fetchVerifyMismatch dest localSha remoteSha =>
      "[code=fetch_verify_mismatch] fetched file '".toList ++ dest ++ "' local sha256 '".toList ++
        localSha ++ "' does not match remote sha256 '".toList ++ remoteSha ++ "'".toList
  | .transferOuterTimeout after =>
      "transfer outer timeout [code=outer_timeout] after ".toList ++ after.debug ++
        "; raise the `timeout` arg or split the file".toList
  | .io display => "io: ".toList ++ display
  | .insufficientDisk free required message =>
      "insufficient disk [code=insufficient_disk]: ".toList ++ message ++ " (free=".toList ++
        (Nat.repr free).toList ++ "B required=".toList ++ (Nat.repr required).toList ++
        "B)".toList
  | .deviceProbeFailed phase message =>
      "device probe failed [code=device_probe_failed] (phase=".toList ++ phase ++ "): ".toList ++
        message
  | .upgradeClusterUnsupported router =>
      "cluster device unsupported [code=cluster_unsupported]: router '".toList ++ router ++
        ("' is a chassis cluster; upgrade_junos v1 supports standalone devices only (ISSU " ++
          "support deferred to v2)").toList
  | .upgradeCommitConfirmedActive router rollbackSecs =>
      "active commit-confirmed window [code=commit_confirmed_active]: router '".toList ++ router ++
        "' has a pending rollback in ".toList ++ (Nat.repr rollbackSecs).toList ++
        "s; run `commit` or `rollback` first, then retry".toList
  | .upgradeOuterTimeout after =>
      "upgrade outer timeout [code=upgrade_outer_timeout] after ".toList ++ after.debug ++
        "; raise the `timeout` arg or check device responsiveness".toList
  | .rustez error => error.display
  | .validation message => "validation error: ".toList ++ message
  | .other display => display

/-- The call was dropped by its caller: what the device made of it is unknown. -/
def JmcpError.dropped : JmcpError → Bool
  | .cancelled | .timeout _ => true
  | _ => false

end JunosMcp
