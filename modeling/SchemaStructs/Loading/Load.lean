import SchemaStructs.Files.Tree
import SchemaStructs.Json.Reader
import SchemaStructs.Loading.Url
import SchemaStructs.Log.Record
import SchemaStructs.Schema.Document

/-!
# Loading schemas

A schema comes from a file, from an address or from a document that was read already.  Every way
gives the trees of its roots or says why there are none, and reports what it does.
-/

namespace SchemaStructs

/-- What kind of trouble kept a document from being fetched. -/
inductive FetchTrouble where
  /-- The answer took too long. -/
  | timeout
  /-- There was no connection. -/
  | connection
  /-- The server refused and gave no status. -/
  | refusal
  /-- Something else that a request may run into. -/
  | other
  /-- Something that no request is expected to run into, such as a host name that cannot be
  encoded. -/
  | unforeseen
  deriving DecidableEq, Repr

/-- What a server answers. -/
inductive Reply where
  /-- No answer. -/
  | trouble (kind : FetchTrouble) (reason : Text)
  /-- A status, the kind of the content and the text that the content is decoded to. -/
  | answer (status : Nat) (contentType body : Text)

/-- Why a schema was not loaded. -/
inductive LoadFailure where
  /-- There is nothing to load from. -/
  | noSource
  /-- There are a file and an address to load from. -/
  | twoSources
  /-- There is no such file. -/
  | fileNotFound (path : Path)
  /-- The file cannot be read. -/
  | unreadable (path : Path) (cause : FileFault)
  /-- The file holds no JSON document. -/
  | invalidFile (path : Path) (doc : Text) (cause : Json.ReadError)
  /-- The address has no scheme or no host. -/
  | badUrl (url : Text)
  /-- The document was not fetched. -/
  | notFetched (url : Text) (kind : FetchTrouble) (reason : Text)
  /-- The server refused. -/
  | refused (url : Text) (status : Nat)
  /-- The server refused and gave no status to report. -/
  | noStatus
  /-- The answer is no JSON document. -/
  | invalidAnswer (url doc : Text) (cause : Json.ReadError)
  /-- The document is no schema. -/
  | badDocument (source : Text) (fault : DocumentFault)
  /-- A part of the document that must have items has none. -/
  | noItems (kind : Text)
  /-- The file holds no text. -/
  | undecodable (fault : Utf8Fault)
  /-- Whether there is such a file cannot be told. -/
  | unusable (cause : FileFault)
  /-- A number of the document is too long, or its parts lie too deep inside each other. -/
  | excessive (cause : Json.ReadError)
  /-- The host of the address is malformed. -/
  | badHost (fault : HostFault)
  /-- The request failed in a way that is not expected of one. -/
  | unforeseen (reason : Text)
  /-- The document has an escape of half of a surrogate pair. -/
  | halfPair

namespace LoadFailure

/-- The failure in words. -/
def message : LoadFailure → Text
  | noSource => "Either file_path or url must be provided"
  | twoSources => "Cannot specify both file_path and url"
  | fileNotFound path => "File not found: " ++ path.toText
  | unreadable path cause => "Error reading file " ++ path.toText ++ ": " ++ cause.message
  | invalidFile path doc cause =>
    "Invalid JSON in file " ++ path.toText ++ ": " ++ cause.message doc
  | badUrl url => "Invalid URL: " ++ url
  | notFetched url .timeout _ => "Request timeout for URL: " ++ url
  | notFetched url .connection _ => "Connection error for URL: " ++ url
  | notFetched url _ reason => "Request error for URL " ++ url ++ ": " ++ reason
  | refused url status => "HTTP error " ++ Text.ofNat status ++ " for URL: " ++ url
  | noStatus => "There is no status of the answer"
  | invalidAnswer url doc cause =>
    "Invalid JSON response from URL " ++ url ++ ": " ++ cause.message doc
  | badDocument source fault => "Invalid schema tree in " ++ source ++ ": " ++ fault.message
  | noItems kind => (DocumentFault.noItems kind).message
  | undecodable fault => fault.message
  | unusable cause => cause.message
  | excessive cause => cause.message []
  | badHost fault => fault.message
  | unforeseen reason => reason
  | halfPair => "half of a surrogate pair stands for no character"

/-- What is reported of the failure, if anything is. -/
def report? : LoadFailure → Option Text
  | noSource => some "Neither file_path nor url provided"
  | twoSources => some "Both file_path and url provided"
  | badUrl url => some ("Invalid URL format: " ++ url)
  | notFetched url .connection reason =>
    some ("Connection error for URL " ++ url ++ ": " ++ reason)
  | noStatus | noItems _ | undecodable _ | unusable _ | excessive _ | badHost _ | unforeseen _
  | halfPair => none
  | f => some f.message

end LoadFailure

namespace Loading

/-- The part of the program that loads schemas. -/
def logger : Text := "xsdgen.utils"

/-- Reports on the loading. -/
def report (level : LogLevel) (message : Text) : Logged Unit := Logged.report level logger message

/-- Ends the loading with a failure, which is reported. -/
def fail {α : Type} (f : LoadFailure) : Logged (Except LoadFailure α) := do
  match f.report? with
  | some message => report .error message
  | none => pure ()
  return .error f

/-- The trees of a document that comes from the given source. -/
def ofDocument (source : Text) (document : Json) : Logged (Except LoadFailure (List Tree)) :=
  match Tree.ofDocument? document with
  | .error (.noItems kind) => fail (.noItems kind)
  | .error fault => fail (.badDocument source fault)
  | .ok trees => do
    report .info ("Loaded " ++ Text.ofNat trees.length ++ " root element(s) from " ++ source)
    return .ok trees

/-- The trees of a document text that comes from the given source; `invalid` is the failure for a
text that is no document. -/
def ofText (source doc : Text) (invalid : Json.ReadError → LoadFailure) :
    Logged (Except LoadFailure (List Tree)) :=
  match Json.read doc with
  | .error (.invalid .halfPair _) => fail .halfPair
  | .error (.invalid fault offset) => fail (invalid (.invalid fault offset))
  | .error cause => fail (.excessive cause)
  | .ok document => ofDocument source document

/-- What is reported of a file before it is read. -/
def announceFile (files : FileTree) (path : Path) : Logged Unit := do
  report .debug ("Attempting to load schema tree from file: " ++ path.toText)
  match files.contains? path with
  | .ok true =>
    if !path.namesJson then
      report .warning ("File does not have .json extension: " ++ path.toText)
  | _ => pure ()

/-- The trees of the document in a file. -/
def ofFile (files : FileTree) (path : Path) : Logged (Except LoadFailure (List Tree)) := do
  announceFile files path
  match files.contains? path with
  | .error cause => fail (.unusable cause)
  | .ok false => fail (.fileNotFound path)
  | .ok true =>
    match files.bytes? path with
    | .error cause => fail (.unreadable path cause)
    | .ok bytes =>
      match FileTree.readText? bytes with
      | .error fault => fail (.undecodable fault)
      | .ok doc => ofText path.toText doc (.invalidFile path doc)

/-- The trees of the document that a server answers with. -/
def ofReply (url : Text) : Reply → Logged (Except LoadFailure (List Tree))
  | .trouble .refusal _ => fail .noStatus
  | .trouble .unforeseen reason => fail (.unforeseen reason)
  | .trouble kind reason => fail (.notFetched url kind reason)
  | .answer status contentType body =>
    if 400 ≤ status ∧ status < 600 then fail (.refused url status)
    else do
      let kind := Text.lower contentType
      if !Text.occursIn "application/json" kind && !(".json" : Text).isSuffixOf url then
        report .warning ("URL " ++ url ++ " does not have JSON content type: " ++ kind)
      ofText url body (.invalidAnswer url body)

/-- Whether a document is asked for at the address. -/
def asks (url : Text) : Bool := (Url.hostFault? url).isNone && Url.isComplete url

/-- The trees of the document at an address. -/
def ofUrl (reply : Reply) (url : Text) : Logged (Except LoadFailure (List Tree)) := do
  report .debug ("Attempting to load schema tree from URL: " ++ url)
  match Url.hostFault? url with
  | some fault => fail (.badHost fault)
  | none => if Url.isComplete url then ofReply url reply else fail (.badUrl url)

/-- What a schema is loaded from, if exactly one of a file and an address is given. -/
def load (files : FileTree) (reply : Reply) (file url : Text) :
    Logged (Except LoadFailure (Text × List Tree)) := do
  match file, url with
  | [], [] => fail .noSource
  | [], url => return (← ofUrl reply url).map fun trees => (url, trees)
  | file, [] =>
    let path := Path.ofText file
    return (← ofFile files path).map fun trees => (path.toText, trees)
  | _, _ => fail .twoSources

end Loading

end SchemaStructs
