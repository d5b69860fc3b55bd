import JunosMcp.BatchRun
import JunosMcp.PipeStages

/-!
# `get_junos_config`

The caller names a path of the configuration and a format. Whatever is accepted becomes one show
command with no pipe in it but the tool's own, and what the device prints is redacted before it is
capped.
-/

namespace JunosMcp
open Lib

inductive GetConfigError where
  | badConfigFormat (format : Text)
  | tool (error : JmcpError)
  deriving DecidableEq

def GetConfigError.display : GetConfigError → Text
  | .badConfigFormat format => "invalid format '".toList ++ format ++
      "' for get_junos_config (expected text, set, xml, or json)".toList
  | .tool error => error.display

/-! ## The command -/

def configDisplaySuffix (format : Text) : Except GetConfigError (Option Text) :=
  if format = "text".toList then .ok none
  else if format = "set".toList then .ok (some "display set".toList)
  else if format = "xml".toList then .ok (some "display xml".toList)
  else if format = "json".toList then .ok (some "display json".toList)
  else .error (.badConfigFormat format)

def dangerousChars : List (Char × String) :=
  [('|', "pipe operator"), (';', "semicolon"), ('\n', "newline"), ('\r', "carriage return"),
   (doubleQuote, "double quote"), (singleQuote, "single quote"), ('\x60', "backtick"),
   ('$', "dollar sign"), ('&', "ampersand"), ('>', "redirect"), ('<', "redirect"),
   (backslash, "backslash"), ('(', "parenthesis"), (')', "parenthesis"), ('\x7b', "brace"),
   ('\x7d', "brace"), ('[', "bracket"), (']', "bracket"), ('*', "wildcard"), ('?', "wildcard"),
   ('!', "exclamation"), ('#', "hash")]

section Path

-- `char::is_alphanumeric`, which knows the letters and digits of every script.
variable (isAlphanumeric : Char → Bool)

def isPathChar (c : Char) : Bool :=
  isAlphanumeric c || c == '-' || c == '_' || c == '.' || c == '/' || c == ':' || c == ' '

def validateConfigPath (path : Text) : Except JmcpError Unit :=
  if (Text.trim path).isEmpty then
    .error (.validation "config_path cannot be empty or whitespace-only".toList)
  else match dangerousChars.find? fun entry => decide (entry.1 ∈ path) with
    | some (c, name) => .error (.validation ("config_path contains forbidden character: ".toList ++
        name.toList ++ " (".toList ++ c :: ")".toList))
    | none => match path.find? fun c => !isPathChar isAlphanumeric c with
      | some c => .error (.validation ("config_path contains invalid character: '".toList ++
          c :: ("' (only alphanumerics, hyphens, underscores, dots, slashes, colons, and spaces " ++
            "are allowed)").toList))
      | none =>
          if Text.contains path "  ".toList then
            .error (.validation "config_path contains consecutive spaces".toList)
          else .ok ()

end Path

def configBase : Option Text → Text
  | some path =>
      if (Text.trim path).isEmpty then "show configuration".toList
      else "show configuration ".toList ++ Text.trim path
  | none => "show configuration".toList

def buildCommand (configPath : Option Text) (format : Text) : Except GetConfigError Text := do
  let suffix ← configDisplaySuffix format
  let base := configBase configPath
  return match suffix with
    | some suffix => base ++ " | ".toList ++ suffix
    | none => base

/-! ## The reply -/

def outputOpens : Text := "<configuration-output>".toList

def outputCloses : Text := "</configuration-output>".toList

/-- The text in front of the first match of the needle. -/
def textBefore (needle : Text) : Text → Option Text
  | [] => (Text.stripPrefix needle []).map fun _ => []
  | c :: rest => match Text.stripPrefix needle (c :: rest) with
      | some _ => some []
      | none => (textBefore needle rest).map (c :: ·)

/-- What is between the tags, or else all of it. -/
def stripConfigXmlWrapper (raw : Text) : Text :=
  match (Text.findAfter outputOpens raw).bind (textBefore outputCloses) with
  | some content => Text.trim content
  | none => Text.trim raw

/-- The redactors of a package, and the reader and printer of JSON between two of them. -/
structure ConfigRedactors where
  text : Text → Text
  xml : Text → Option Text
  json : Text → Option Text

/-- What does not read as its format is redacted as text. -/
def ConfigRedactors.redactConfigOutput (redactors : ConfigRedactors) (text format : Text) : Text :=
  if format = "xml".toList then (redactors.xml text).getD (redactors.text text)
  else if format = "json".toList then (redactors.json text).getD (redactors.text text)
  else redactors.text text

/-! ## The tool -/

structure GetConfigArgs where
  device : Text
  configPath : Option Text
  format : Text
  timeout : Duration
  caps : OutputCaps

section Tool
variable {crate : PolicyCrate} (server : CommandServer crate) (isAlphanumeric : Char → Bool)

def checkConfigPath : Option Text → Except JmcpError Unit
  | some path => do
      validateInputLength "config_path".toList path
      validateConfigPath isAlphanumeric path
  | none => .ok ()

/-- The command, once everything about the call has been checked. -/
def getConfigCommand (args : GetConfigArgs) : Except GetConfigError Text := do
  (validateOutputCaps args.caps).mapError .tool
  (checkConfigPath isAlphanumeric args.configPath).mapError .tool
  let command ← buildCommand args.configPath args.format
  (server.get args.device).mapError .tool
  (enforceDecision (server.policy.checkCommand args.device command) "get_junos_config".toList
    args.device command).mapError .tool
  return command

variable (redactors : ConfigRedactors)

/-- The reply is that of the command under the caller's timeout. -/
def getConfig (args : GetConfigArgs) (reply : Timed (Except JmcpError Text)) :
    Except GetConfigError Text := do
  let command ← getConfigCommand server isAlphanumeric args
  let result ← (awaited args.timeout reply).mapError .tool
  let redacted := redactors.redactConfigOutput (stripConfigXmlWrapper result) args.format
  return processOutput server.regexes command args.caps redacted

end Tool

/-! ## One command -/

section Command
variable {isAlphanumeric : Char → Bool}

/-- What a path has to be to be accepted. -/
structure PathText (isAlphanumeric : Char → Bool) (path : Text) : Prop where
  shown : Text.trim path ≠ []
  plain : ∀ entry ∈ dangerousChars, entry.1 ∉ path
  known : ∀ c ∈ path, isPathChar isAlphanumeric c = true
  single : Text.contains path "  ".toList = false

theorem validateConfigPath_ok {path : Text} :
    validateConfigPath isAlphanumeric path = .ok () ↔ PathText isAlphanumeric path := by
  rw [validateConfigPath]
  by_cases blank : (Text.trim path).isEmpty = true
  · rw [if_pos blank]
    refine ⟨nofun, fun accepted => ?_⟩
    exact absurd (List.isEmpty_iff.mp blank) accepted.shown
  rw [if_neg blank]
  have shown : Text.trim path ≠ [] := fun empty => blank (List.isEmpty_iff.mpr empty)
  cases dangerous : dangerousChars.find? fun entry => decide (entry.1 ∈ path) with
  | some entry =>
      refine ⟨nofun, fun accepted => ?_⟩
      have listed := List.mem_of_find?_eq_some dangerous
      have found := List.find?_some dangerous
      exact absurd (of_decide_eq_true found) (accepted.plain entry listed)
  | none =>
      have plain : ∀ entry ∈ dangerousChars, entry.1 ∉ path := by
        intro entry member inside
        exact List.find?_eq_none.mp dangerous entry member (decide_eq_true inside)
      cases strange : path.find? fun c => !isPathChar isAlphanumeric c with
      | some c =>
          refine ⟨nofun, fun accepted => ?_⟩
          have inside := List.mem_of_find?_eq_some strange
          have unknown := List.find?_some strange
          simp only [accepted.known c inside, Bool.not_true, Bool.false_eq_true] at unknown
      | none =>
          have known : ∀ c ∈ path, isPathChar isAlphanumeric c = true := by
            intro c member
            have seen := List.find?_eq_none.mp strange c member
            simpa using seen
          by_cases double : Text.contains path "  ".toList = true
          · dsimp only
            rw [if_pos double]
            refine ⟨nofun, fun accepted => ?_⟩
            rw [accepted.single] at double
            cases double
          · dsimp only
            rw [if_neg double]
            exact ⟨fun _ => ⟨shown, plain, known, Bool.eq_false_of_not_eq_true double⟩, fun _ => rfl⟩

theorem mem_trim {text : Text} {c : Char} (member : c ∈ Text.trim text) : c ∈ text := by
  rw [Text.trim, List.mem_reverse] at member
  have inside := (List.dropWhile_sublist _).subset member
  rw [List.mem_reverse] at inside
  exact (List.dropWhile_sublist _).subset inside

/-- Behind a character that shows, a trimmed text ends the whole. -/
theorem trim_append_trim {c : Char} (visible : Text.isWhitespace c = false) (middle text : Text)
    (shown : Text.trim text ≠ []) :
    Text.trim (c :: middle ++ Text.trim text) = c :: middle ++ Text.trim text := by
  have front : (c :: middle ++ Text.trim text).dropWhile Text.isWhitespace =
      c :: middle ++ Text.trim text := by
    rw [List.cons_append, List.dropWhile_cons, visible, if_neg Bool.false_ne_true]
  have ended : ((Text.trim text).reverse ++ (c :: middle).reverse).dropWhile Text.isWhitespace =
      (Text.trim text).reverse ++ (c :: middle).reverse := by
    have stopped := List.head?_dropWhile_not Text.isWhitespace (text.dropWhile Text.isWhitespace).reverse
    rw [Text.trim, List.reverse_reverse] at *
    cases kept : (text.dropWhile Text.isWhitespace).reverse.dropWhile Text.isWhitespace with
    | nil => exact absurd (by rw [kept]; rfl) shown
    | cons last rest =>
        rw [kept] at stopped
        rw [List.cons_append, List.dropWhile_cons, stopped, if_neg Bool.false_ne_true]
  rw [Text.trim, front, List.reverse_append, ended, ← List.reverse_append, List.reverse_reverse]

theorem closed_of_bare {text : Text} (bare : ∀ c ∈ text, pipeQuoting.isQuote c = false ∧ c ≠ '|') :
    pipeQuoting.Closed (· ≠ '|') text := by
  induction text with
  | nil => exact .nil
  | cons c rest ih =>
      obtain ⟨here, later⟩ := List.forall_mem_cons.mp bare
      exact .plain here.1 here.2 (ih later)

theorem closed_of_all {text : Text}
    (all : text.all (fun c => !pipeQuoting.isQuote c && c != '|') = true) :
    pipeQuoting.Closed (· ≠ '|') text := by
  apply closed_of_bare
  intro c member
  have bare := List.all_eq_true.mp all c member
  simpa using bare

theorem PathText.closed {path : Text} (accepted : PathText isAlphanumeric path) :
    ∀ c ∈ Text.trim path, pipeQuoting.isQuote c = false ∧ c ≠ '|' := by
  intro c member
  have absent (d : Char) (listed : d ∈ dangerousChars.map Prod.fst) : c ≠ d := by
    rintro rfl
    obtain ⟨entry, known, rfl⟩ := List.mem_map.mp listed
    exact accepted.plain entry known (mem_trim member)
  have double := absent doubleQuote (by simp [dangerousChars])
  have single := absent singleQuote (by simp [dangerousChars])
  refine ⟨?_, absent '|' (by simp [dangerousChars])⟩
  rw [Bool.eq_false_iff, Ne, isQuote_iff, not_or]
  exact ⟨double, single⟩

theorem show_configuration_stage : PipeStage "show configuration".toList ∧
    Text.trim "show configuration".toList = "show configuration".toList := by
  have all : "show configuration".toList.all
      (fun c => !pipeQuoting.isQuote c && c != '|') = true := by decide
  have trimmed : Text.trim "show configuration".toList = "show configuration".toList := by decide
  have shown : Text.trim "show configuration".toList ≠ [] := by decide
  exact ⟨⟨shown, closed_of_all all⟩, trimmed⟩

theorem configBase_none : configBase none = "show configuration".toList := rfl

theorem configBase_some {path : Text} (shown : Text.trim path ≠ []) :
    configBase (some path) = "show configuration ".toList ++ Text.trim path := by
  have kept : ¬(Text.trim path).isEmpty = true := fun empty => shown (List.isEmpty_iff.mp empty)
  exact if_neg kept

theorem show_configuration_opens :
    "show configuration ".toList = 's' :: "how configuration ".toList := by decide

theorem show_configuration_bare : "show configuration ".toList.all
    (fun c => !pipeQuoting.isQuote c && c != '|') = true := by decide

theorem PathText.stage {path : Text} (accepted : PathText isAlphanumeric path) :
    PipeStage (configBase (some path)) ∧
      Text.trim (configBase (some path)) = configBase (some path) := by
  rw [configBase_some accepted.shown]
  have trimmed : Text.trim ("show configuration ".toList ++ Text.trim path) =
      "show configuration ".toList ++ Text.trim path := by
    rw [show_configuration_opens]
    exact trim_append_trim rfl _ path accepted.shown
  have shown : Text.trim ("show configuration ".toList ++ Text.trim path) ≠ [] := by
    rw [trimmed]
    exact List.append_ne_nil_of_right_ne_nil _ accepted.shown
  have bare : ∀ c ∈ "show configuration ".toList ++ Text.trim path,
      pipeQuoting.isQuote c = false ∧ c ≠ '|' := by
    intro c member
    rcases List.mem_append.mp member with front | behind
    · have each := List.all_eq_true.mp show_configuration_bare c front
      simpa using each
    · exact accepted.closed c behind
  exact ⟨⟨shown, closed_of_bare bare⟩, trimmed⟩

theorem configBase_stage {configPath : Option Text}
    (accepted : ∀ path ∈ configPath, PathText isAlphanumeric path) :
    PipeStage (configBase configPath) ∧
      Text.trim (configBase configPath) = configBase configPath := by
  cases configPath with
  | none =>
      rw [configBase_none]
      exact show_configuration_stage
  | some path => exact (accepted path rfl).stage

/-- The tool's own pipe is no modifier. -/
theorem configDisplaySuffix_ok {format : Text} {suffix : Option Text}
    (ok : configDisplaySuffix format = .ok suffix) :
    ∀ stage ∈ suffix, PipeStage stage ∧ Text.trim stage = stage ∧ readModifier stage = none := by
  intro stage member
  rw [configDisplaySuffix] at ok
  split at ok
  · cases ok
    cases member
  · split at ok
    · cases ok
      cases member
      exact ⟨⟨by decide, closed_of_all (by decide)⟩, by decide, by decide⟩
    · split at ok
      · cases ok
        cases member
        exact ⟨⟨by decide, closed_of_all (by decide)⟩, by decide, by decide⟩
      · split at ok
        · cases ok
          cases member
          exact ⟨⟨by decide, closed_of_all (by decide)⟩, by decide, by decide⟩
        · cases ok

theorem buildCommand_ok {configPath : Option Text} {format command : Text}
    (ok : buildCommand configPath format = .ok command) :
    ∃ suffix, configDisplaySuffix format = .ok suffix ∧
      command = joinPipes (configBase configPath :: suffix.toList) := by
  obtain ⟨suffix, shown, ok⟩ := bind_eq_ok.mp ok
  refine ⟨suffix, shown, ?_⟩
  cases suffix with
  | none =>
      cases ok
      exact (List.append_nil _).symm
  | some suffix =>
      cases ok
      have alone : joinPipes [suffix] = suffix := List.intercalate_singleton
      rw [Option.toList_some, joinPipes_cons (List.cons_ne_nil _ _), alone]
      rfl

variable {crate : PolicyCrate} {server : CommandServer crate}

theorem checkConfigPath_ok {configPath : Option Text}
    (ok : checkConfigPath isAlphanumeric configPath = .ok ()) :
    ∀ path ∈ configPath, PathText isAlphanumeric path := by
  rintro path ⟨⟩
  obtain ⟨_, _, valid⟩ := bind_eq_ok.mp ok
  exact validateConfigPath_ok.mp valid

/-- The stages of the command that is sent. -/
def configStages (args : GetConfigArgs) (suffix : Option Text) : List Text :=
  configBase args.configPath :: suffix.toList

/-- One command was allowed, and no path adds a stage to it. -/
structure ConfigCommand (server : CommandServer crate) (isAlphanumeric : Char → Bool)
    (args : GetConfigArgs) (command : Text) (suffix : Option Text) : Prop where
  path : ∀ path ∈ args.configPath, PathText isAlphanumeric path
  format : configDisplaySuffix args.format = .ok suffix
  joined : command = joinPipes (configStages args suffix)
  split : splitPipes command = configStages args suffix
  allowed : server.policy.checkCommand args.device command = .allow

theorem configStages_split {args : GetConfigArgs} {suffix : Option Text}
    (path : ∀ path ∈ args.configPath, PathText isAlphanumeric path)
    (format : configDisplaySuffix args.format = .ok suffix) :
    splitPipes (joinPipes (configStages args suffix)) = configStages args suffix := by
  have base := configBase_stage path
  have shown := configDisplaySuffix_ok format
  have each : ∀ stage ∈ configStages args suffix, PipeStage stage ∧ Text.trim stage = stage := by
    intro stage member
    rcases List.mem_cons.mp member with rfl | piped
    · exact base
    · have own := shown stage (Option.mem_toList.mp piped)
      exact ⟨own.1, own.2.1⟩
  have trimmed : (configStages args suffix).map Text.trim = (configStages args suffix).map id :=
    List.map_congr_left fun stage member => (each stage member).2
  rw [splitPipes_joined fun stage member => (each stage member).1, trimmed, List.map_id]

theorem getConfigCommand_ok {args : GetConfigArgs} {command : Text}
    (ok : getConfigCommand server isAlphanumeric args = .ok command) :
    ∃ suffix, ConfigCommand server isAlphanumeric args command suffix := by
  obtain ⟨_, _, ok⟩ := bind_eq_ok.mp ok
  obtain ⟨_, checked, ok⟩ := bind_eq_ok.mp ok
  obtain ⟨built, building, ok⟩ := bind_eq_ok.mp ok
  obtain ⟨_, _, ok⟩ := bind_eq_ok.mp ok
  obtain ⟨_, enforced, ok⟩ := bind_eq_ok.mp ok
  cases ok
  obtain ⟨suffix, format, joined⟩ := buildCommand_ok building
  have path := checkConfigPath_ok (mapError_eq_ok.mp checked)
  refine ⟨suffix, path, format, joined, ?_, Batch.enforceDecision_ok (mapError_eq_ok.mp enforced)⟩
  rw [joined]
  exact configStages_split path format

/-- The caps are applied to what the redactor left, and nothing else is. -/
def cappedConfig (redactors : ConfigRedactors) (args : GetConfigArgs) (raw : Text) : Text :=
  applyByteCap (applyLineCap (redactors.redactConfigOutput (stripConfigXmlWrapper raw) args.format)
    args.caps.maxLines args.caps.tail) args.caps.maxBytes args.caps.tail

/-- What is shown was printed by one allowed command, whose path is not piped anywhere, and was
redacted before it was cut. -/
theorem getConfig_shows {redactors : ConfigRedactors} {args : GetConfigArgs}
    {reply : Timed (Except JmcpError Text)} {output : Text}
    (shown : getConfig server isAlphanumeric redactors args reply = .ok output) :
    ∃ command suffix raw, ConfigCommand server isAlphanumeric args command suffix ∧
      reply = .completed (.ok raw) ∧ output = cappedConfig redactors args raw := by
  obtain ⟨command, sent, shown⟩ := bind_eq_ok.mp shown
  obtain ⟨raw, answered, shown⟩ := bind_eq_ok.mp shown
  cases shown
  obtain ⟨suffix, one⟩ := getConfigCommand_ok sent
  have unread : ∀ stage ∈ (splitPipes command).tail, readModifier stage = none := by
    rw [one.split]
    intro stage piped
    exact (configDisplaySuffix_ok one.format stage (Option.mem_toList.mp piped)).2.2
  refine ⟨command, suffix, raw, one, ?_, ?_⟩
  · cases reply with
    | elapsed => cases answered
    | completed result =>
        have came : result = .ok raw := mapError_eq_ok.mp answered
        rw [came]
  · rw [processOutput, applyPipeModifiers, applySegments_unread unread, cappedConfig]

end Command

/-! ## One interface in set format -/

def plainRedactors : ConfigRedactors := ⟨id, some, some⟩

def loopbackArgs : GetConfigArgs where
  device := "r1".toList
  configPath := some " interfaces lo0".toList
  format := "set".toList
  timeout := 30
  caps := ⟨some 1, none, false⟩

def loopbackReply : Timed (Except JmcpError Text) :=
  .completed (.ok "<configuration-output>\nset lo0 a\n</configuration-output>".toList)

theorem loopback_got : getConfig openServer Char.isAlphanum plainRedactors loopbackArgs
    loopbackReply = .ok "set lo0 a".toList := by
  decide

theorem loopback_shown : ∃ command suffix raw,
    ConfigCommand openServer Char.isAlphanum loopbackArgs command suffix ∧
      loopbackReply = .completed (.ok raw) ∧
      "set lo0 a".toList = cappedConfig plainRedactors loopbackArgs raw :=
  getConfig_shows loopback_got

end JunosMcp
