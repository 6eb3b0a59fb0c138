import Ndef.Record.Build
import Ndef.Report
import Ndef.Settings
import Ndef.Tlv.Area
import Ndef.Unicode.WhiteSpace

/-!
# Commands

The arguments of the program are options, which may stand anywhere, and words, of
which the first names a command.  Reading the arguments (`Invocation.ofArguments`)
gives a request and finds every misuse of the command line; answering the request
(`Request.answer`) gives the text to print.
-/

namespace Ndef

/-- The text on how to use the program. -/
def usage : String :=
  "\n".intercalate [
    "usage: nfc-ndef [--tlv | --ndef] [--lang TAG] COMMAND [ARGS]",
    "",
    "commands:",
    "  decode HEX|-                      print each record as a JSON line",
    "  check HEX|-                       test that a TLV area ends in a terminator",
    "  encode-uri URI",
    "  encode-text TEXT [LANG] [utf8|utf16be|utf16le]",
    "  encode-sp URI [TITLE] [open|save|edit]",
    "  encode-mime TYPE HEX"]

/-! ### Errors -/

/-- How the command line can be misused. -/
inductive UsageError where
  /-- The language option is the last argument. -/
  | missingLanguage
  /-- The value of the language option names no language. -/
  | badLanguage
  /-- There is no command. -/
  | missingCommand
  /-- There is no such encoding. -/
  | unknownEncoding
  /-- There is no such action. -/
  | unknownAction
  /-- There is no such command, or it does not take these words. -/
  | badArguments (command : String)
deriving DecidableEq

/-- The wording of the misuse, before the text on how to use the program. -/
def UsageError.reason : UsageError → String
  | missingLanguage => "--lang needs a value"
  | badLanguage => "bad --lang value"
  | missingCommand => "missing command"
  | unknownEncoding => "unknown encoding"
  | unknownAction => "unknown action"
  | badArguments command => "bad arguments for " ++ quoted command

/-- Why a command fails. -/
inductive CommandError where
  | usage (error : UsageError)
  | hex (error : Hex.Error)
  | build (error : BuildError)
  /-- The message does not fit a block of tag memory. -/
  | messageTooLong
  /-- The standard input is not text. -/
  | inputNotText
deriving DecidableEq

/-- The wording of the error. -/
def CommandError.message : CommandError → String
  | usage error => error.reason ++ "\n" ++ Ndef.usage
  | hex error => "hex decode error: " ++ error.message
  | build error => error.message
  | messageTooLong => "message is too large for a TLV container"
  | inputNotText => "I/O error: stream did not contain valid UTF-8"

/-! ### Requests -/

/-- Where hexadecimal text comes from. -/
inductive Source where
  | word (text : String)
  | standardInput
deriving DecidableEq

/-- What a command is asked to do. -/
inductive Request where
  /-- Report the records in the given bytes. -/
  | decode (source : Source)
  /-- Tell whether the given area is terminated. -/
  | check (source : Source)
  /-- Print a message of one URI record. -/
  | encodeUri (uri : String)
  /-- Print a message of one text record. -/
  | encodeText (content : String) (language : Option String) (encoding : TextEncoding)
  /-- Print a message of one smart poster. -/
  | encodePoster (uri : String) (title : Option String) (action : Option Action)
  /-- Print a message of one record of a media type. -/
  | encodeMedia (mediaType digits : String)
deriving DecidableEq

/-- What the options set. -/
structure Options where
  /-- The container of messages. -/
  container : Container
  /-- The display language. -/
  language : Option Language
deriving DecidableEq

/-- What the arguments of the program ask for. -/
inductive Invocation where
  | help
  | request (options : Options) (request : Request)
deriving DecidableEq

/-! ### Reading the arguments -/

/-- What options and words the arguments have. -/
inductive Arguments where
  | help
  | words (options : Options) (words : List String)
deriving DecidableEq

/-- Reads options and words off the arguments, where `before` are the words so far in
reverse.  The argument after the language option is its value, whatever it is. -/
def Arguments.read (options : Options) (before : List String) :
    List String → Except UsageError Arguments
  | [] => .ok (.words options before.reverse)
  | argument :: rest =>
    if argument = "--tlv" then read { options with container := .tlv } before rest
    else if argument = "--ndef" then read { options with container := .bare } before rest
    else if argument = "--lang" then
      match rest with
      | [] => .error .missingLanguage
      | tag :: rest =>
        match Language.parse? tag with
        | none => .error .badLanguage
        | some language => read { options with language := some language } before rest
    else if argument = "-h" ∨ argument = "--help" then .ok .help
    else read options (argument :: before) rest

/-- The source that a word names. -/
def Source.ofWord (word : String) : Source :=
  if word = "-" then standardInput else .word word

/-- The encoding that the word names, or UTF-8 without a word. -/
def encodingOfWord : Option String → Except UsageError TextEncoding
  | none => .ok .utf8
  | some word =>
    match TextEncoding.ofName? word with
    | some encoding => .ok encoding
    | none => .error .unknownEncoding

/-- The action that the word names, or none without a word. -/
def actionOfWord : Option String → Except UsageError (Option Action)
  | none => .ok none
  | some word =>
    if word = "open" then .ok (some .perform)
    else if word = "save" then .ok (some .save)
    else if word = "edit" then .ok (some .edit)
    else .error .unknownAction

/-- The request that a command makes with the words behind it. -/
def Request.ofCommand (command : String) (words : List String) : Except UsageError Request :=
  let refused := .error (.badArguments command)
  if command = "decode" then
    match words with
    | [word] => .ok (.decode (.ofWord word))
    | _ => refused
  else if command = "check" then
    match words with
    | [word] => .ok (.check (.ofWord word))
    | _ => refused
  else if command = "encode-uri" then
    match words with
    | [uri] => .ok (.encodeUri uri)
    | _ => refused
  else if command = "encode-text" then
    match words with
    | content :: more =>
      if more.length ≤ 2 then
        (encodingOfWord more[1]?).map (.encodeText content more[0]? ·)
      else refused
    | [] => refused
  else if command = "encode-sp" then
    match words with
    | uri :: more =>
      if more.length ≤ 2 then
        (actionOfWord more[1]?).map (.encodePoster uri more[0]? ·)
      else refused
    | [] => refused
  else if command = "encode-mime" then
    match words with
    | [mediaType, digits] => .ok (.encodeMedia mediaType digits)
    | _ => refused
  else refused

/-- The request of words of which the first names a command. -/
def Request.ofWords : List String → Except UsageError Request
  | [] => .error .missingCommand
  | command :: words => ofCommand command words

/-- What the arguments ask for, where the options are those without any argument. -/
def Invocation.ofArguments (options : Options) (arguments : List String) :
    Except UsageError Invocation := do
  match ← Arguments.read options [] arguments with
  | .help => return .help
  | .words options words => return .request options (← Request.ofWords words)

/-! ### Answering requests -/

/-- The text of a source. -/
def Source.text (input : Bytes) : Source → Except CommandError String
  | word text => .ok text
  | standardInput =>
    match Utf8.decode? input with
    | some text => .ok text
    | none => .error .inputNotText

/-- The bytes that a source writes; white space between the digits does not matter. -/
def Source.bytes (input : Bytes) (source : Source) : Except CommandError Bytes := do
  let text ← source.text input
  (Hex.decode (String.ofList (text.toList.filter (!isWhiteSpace ·)))).mapError .hex

/-- The message in the given bytes. -/
def Options.decode? (options : Options) (b : Bytes) : Option Message :=
  match options.container with
  | .tlv => Message.ofArea? options.language b
  | .bare => Message.decode? options.language b

/-- The message of one record in its container, in hexadecimal. -/
def Options.encode (options : Options) (r : Record) : Except CommandError String :=
  let message := Message.encode (.single r)
  match options.container with
  | .tlv =>
    match Area.wrap? message with
    | some area => .ok (Hex.encode area)
    | none => .error .messageTooLong
  | .bare => .ok (Hex.encode message)

/-- The message of the record that was built. -/
def Options.encodeBuilt (options : Options) (built : Except BuildError Record) :
    Except CommandError String := do
  options.encode (← built.mapError .build)

/-- What is printed for a request, given the standard input. -/
def Request.answer (options : Options) (input : Bytes) : Request → Except CommandError String
  | decode source => do
    match options.decode? (← source.bytes input) with
    | some message => return Report.lines message
    | none => return ""
  | check source => do
    if Area.isTerminated (← source.bytes input) then return "true" else return "false"
  | encodeUri uri => options.encodeBuilt (Record.buildUri uri)
  | encodeText content language encoding =>
    options.encodeBuilt (Record.buildTextOrDefault (some content) language encoding options.language)
  | encodePoster uri title action =>
    options.encodeBuilt <| Record.buildSmartPoster {
      uri := uri
      title := title
      current := options.language
      action := action }
  | encodeMedia mediaType digits => do
    let payload ← (Hex.decode digits).mapError CommandError.hex
    options.encodeBuilt (Record.buildMedia mediaType payload)

/-- What is printed for what the arguments ask for. -/
def Invocation.answer (input : Bytes) : Invocation → Except CommandError String
  | help => .ok usage
  | request options r => r.answer options input

/-- Whether the standard input has a part in the answer. -/
def Invocation.readsInput : Invocation → Bool
  | request _ (.decode source) | request _ (.check source) => source = .standardInput
  | _ => false

/-- What the arguments ask for under the given settings and environment. -/
def Invocation.prepare (settings : Settings) (env : Environment) (arguments : List String) :
    Except CommandError Invocation :=
  let options : Options :=
    { container := settings.container, language := settings.displayLanguage? env }
  (ofArguments options arguments).mapError .usage

/-- What the program prints for the given settings, environment, arguments and standard
input. -/
def run (settings : Settings) (env : Environment) (arguments : List String) (input : Bytes) :
    Except CommandError String := do
  (← Invocation.prepare settings env arguments).answer input

/-- What a run of the program leaves behind. -/
structure Outcome where
  /-- The exit status. -/
  status : Nat
  /-- The standard output. -/
  output : String
  /-- The standard error. -/
  errors : String
deriving DecidableEq

/-- The outcome of a run: its text on the standard output, if there is any, or the
error on the standard error. -/
def Outcome.of : Except CommandError String → Outcome
  | .ok text => { status := 0, output := if text = "" then "" else text ++ "\n", errors := "" }
  | .error error => { status := 1, output := "", errors := error.message ++ "\n" }

end Ndef
