import JunosMcp.Upgrade.Preflight
import JunosMcp.Upgrade.Run

/-!
# Checks of the file tools

What `transfer_file` and `fetch_file` read from the device and from the copy program: checksum
output, free storage, the outcome of a copy, and the host keys that are needed for one.
-/

namespace JunosMcp.Transfer
open Text

/-! ## Checksums -/

abbrev Bytes := List UInt8

abbrev Sha256 := Vector UInt8 32

def hexDigit (n : Nat) : Char := Char.ofNat (if n < 10 then '0'.toNat + n else 'a'.toNat + n - 10)

def hexByte (byte : UInt8) : Text := [hexDigit (byte.toNat / 16), hexDigit (byte.toNat % 16)]

def hex32 (sha : Sha256) : Text := sha.toList.flatMap hexByte

def hexValue (c : Char) : Option Nat :=
  if '0' ≤ c ∧ c ≤ '9' then some (c.toNat - '0'.toNat)
  else if 'a' ≤ c ∧ c ≤ 'f' then some (c.toNat - 'a'.toNat + 10)
  else if 'A' ≤ c ∧ c ≤ 'F' then some (c.toNat - 'A'.toNat + 10)
  else none

/-- Two digits for each byte. -/
def bytesOfHex : Text → Option Bytes
  | [] => some []
  | [_] => none
  | high :: low :: rest => do
      let high ← hexValue high
      let low ← hexValue low
      let bytes ← bytesOfHex rest
      return UInt8.ofNat (16 * high + low) :: bytes

def shaOfHex (hex : Text) : Option Sha256 :=
  (bytesOfHex hex).bind fun bytes =>
    if sized : bytes.toArray.size = 32 then some ⟨bytes.toArray, sized⟩ else none

/-- The text behind the last `=`. -/
def afterLastEquals (line : Text) : Option Text :=
  if line.any (· == '=') then some (line.reverse.takeWhile (· != '=')).reverse else none

def missingFile : Text := "No such file or directory".toList

/-- `none` where the line says nothing about the file. -/
def checksumLine (line : Text) : Option (Option Sha256) :=
  let trimmed := trim line
  if contains trimmed missingFile then some none
  else ((afterLastEquals trimmed).bind fun hex => shaOfHex (trim hex)).map some

def parseChecksumOutput (debug : Text → Text) (output : Text) :
    Except JmcpError (Option Sha256) :=
  match (lines output).findSome? checksumLine with
  | some sha => .ok sha
  | none => .error (.validation ("unable to parse checksum output: ".toList ++ debug output))

/-- How an error is printed is nothing to what is read. -/
theorem parseChecksumOutput_debug {debug debug' : Text → Text} {output : Text}
    {sha : Option Sha256} (parsed : parseChecksumOutput debug output = .ok sha) :
    parseChecksumOutput debug' output = .ok sha := by
  unfold parseChecksumOutput at parsed ⊢
  cases found : (lines output).findSome? checksumLine with
  | some read =>
      rw [found] at parsed
      exact parsed
  | none =>
      rw [found] at parsed
      cases parsed

theorem hexValue_hexDigit : ∀ n < 16, hexValue (hexDigit n) = some n := by
  decide

theorem bytesOfHex_flatMap (bytes : Bytes) : bytesOfHex (bytes.flatMap hexByte) = some bytes := by
  induction bytes with
  | nil => rfl
  | cons byte rest ih =>
      have high : byte.toNat / 16 < 16 := by
        have := byte.toNat_lt
        omega
      have low : byte.toNat % 16 < 16 := Nat.mod_lt _ (by decide)
      have whole : UInt8.ofNat (16 * (byte.toNat / 16) + byte.toNat % 16) = byte := by
        rw [Nat.div_add_mod, UInt8.ofNat_toNat]
      simp only [List.flatMap_cons, hexByte, List.cons_append, List.nil_append, bytesOfHex,
        hexValue_hexDigit _ high, hexValue_hexDigit _ low, ih, Option.bind_eq_bind, Option.bind_some,
        Option.pure_def, whole]

/-- What is printed is read back. -/
theorem shaOfHex_hex32 (sha : Sha256) : shaOfHex (hex32 sha) = some sha := by
  have sized : sha.toList.toArray.size = 32 := by simp
  rw [shaOfHex, hex32, bytesOfHex_flatMap, Option.bind_some, dif_pos sized]
  simp [Vector.toList]

theorem hex32_injective : Function.Injective hex32 := by
  intro first second same
  have read := congrArg shaOfHex same
  rw [shaOfHex_hex32, shaOfHex_hex32] at read
  exact Option.some.inj read

/-! ## Names -/

def remotePath (basename : Text) : Text := "/var/tmp/".toList ++ basename

def checksumPrefix : Text := "file checksum sha-256 /var/tmp/".toList

def deletePrefix : Text := "file delete /var/tmp/".toList

def checksumCommand (basename : Text) : Text := checksumPrefix ++ basename

def deleteCommand (basename : Text) : Text := deletePrefix ++ basename

def partialName (localName : Text) : Text := localName ++ ".partial".toList

theorem partialName_injective : Function.Injective partialName :=
  fun _ _ same => List.append_cancel_right same

/-! ## Host keys -/

inductive SshHostKeyMode where
  | strict
  | acceptNew
  | acceptAll
  deriving DecidableEq

structure TransferConfig where
  stagingDir : Text
  knownHostsFile : Text
  hostKeyMode : SshHostKeyMode

/-- Only the strict mode needs the file. -/
def checkKnownHosts (config : TransferConfig) (isFile : Bool) : Except JmcpError Unit :=
  if isFile then .ok ()
  else match config.hostKeyMode with
    | .acceptNew | .acceptAll => .ok ()
    | .strict => .error (.knownHostsMissing config.knownHostsFile)

/-! ## The outcome of a copy -/

structure ScpOutcome where
  exitCode : Int
  stderr : Text

def isDigit (byte : UInt8) : Bool := 48 ≤ byte && byte ≤ 57

def isPathByte (byte : UInt8) : Bool :=
  isDigit byte || (65 ≤ byte && byte ≤ 90) || (97 ≤ byte && byte ≤ 122) || byte == 47 ||
    byte == 46 || byte == 95 || byte == 45 || byte == 43

/-- Behind one to three digits. -/
def skipOctet (bytes : Bytes) : Option Bytes :=
  let digits := (bytes.take 3).takeWhile isDigit
  if digits.isEmpty then none else some (bytes.drop digits.length)

def skipDot : Bytes → Option Bytes
  | 46 :: rest => some rest
  | _ => none

/-- Behind a dotted quad that no digit or dot follows. -/
def matchIpv4 (bytes : Bytes) : Option Bytes := do
  let first ← skipOctet bytes
  let second ← skipOctet (← skipDot first)
  let third ← skipOctet (← skipDot second)
  let rest ← skipOctet (← skipDot third)
  match rest with
  | next :: _ => if isDigit next || next == 46 then none else some rest
  | [] => some rest

/-- One byte is one character here, also where the text has characters of several bytes. -/
def scrubFrom : Nat → Bytes → Text
  | _, [] => []
  | 0, _ => []
  | fuel + 1, byte :: rest =>
      if byte == 47 && (rest.head?.map isPathByte).getD false then
        "<path>".toList ++ scrubFrom fuel (rest.dropWhile isPathByte)
      else match if isDigit byte then matchIpv4 (byte :: rest) else none with
        | some after => "<host>".toList ++ scrubFrom fuel after
        | none => Char.ofNat byte.toNat :: scrubFrom fuel rest

def utf8Bytes (text : Text) : Bytes := (String.ofList text).toUTF8.data.toList

def scrubScpStderr (stderr : Text) : Text :=
  scrubFrom (utf8Bytes stderr).length (utf8Bytes stderr)

def classifyScpFailure (config : TransferConfig) (device : Text) (outcome : ScpOutcome) :
    JmcpError :=
  if contains outcome.stderr "@revoked".toList then .hostKeyRevoked device config.knownHostsFile
  else if contains outcome.stderr "Host key verification failed".toList ||
      contains outcome.stderr "REMOTE HOST IDENTIFICATION HAS CHANGED".toList then
    .hostKeyMismatch device config.knownHostsFile
  else if outcome.exitCode == 255 && (contains outcome.stderr "Connection timed out".toList ||
      contains outcome.stderr "No route to host".toList) then .connectTimeout device
  else .scpFailed outcome.exitCode (scrubScpStderr outcome.stderr)

example : scrubScpStderr "scp: /var/tmp/a: 10.0.0.1 refused (1.2.3)".toList =
    "scp: <path>: <host> refused (1.2.3)".toList := by
  decide

end JunosMcp.Transfer
