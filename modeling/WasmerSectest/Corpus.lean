import WasmerSectest.Guests
import WasmerSectest.Lib.Text
import WasmerSectest.Lib.Utf8

namespace WasmerSectest
set_option autoImplicit true

def maxExternalModuleBytes : Nat := 16 * 1024 * 1024

/-- A file name, which need not be valid UTF-8. -/
abbrev OsStr := List UInt8

/-- How opening a file and reading it goes. The length its metadata states need not be the number
of bytes that the read then finds. -/
inductive Opened where
  | unopened (err : String)
  | unstated (err : String)
  | opened (len : Nat) (contents : Except String (List UInt8))

def Opened.bytes (bytes : List UInt8) : Opened := .opened bytes.length (.ok bytes)

/-- A directory entry. Anything that is not a directory is a file here, also a symbolic link. -/
inductive Node where
  | file (opened : Opened)
  | dir (entries : List (OsStr × Node))
  | unreadable (err : String)
  | unlisted (err : String)
  | uninspected (err : String)

/-- A corpus directory as the program finds it; `manifest` is what reading its `corpus.toml`
gives, if there is one. -/
structure CorpusDir where
  isDir : Bool
  manifest : Option (Except String String)
  root : Node

structure GuestFile where
  names : List OsStr
  opened : Opened

structure CaseMetadata where
  file : String := ""
  name : Option String := none
  expectedCode : Option Int32 := none
  kind : Option CaseKind := none
  category : Option String := none
  severity : Option String := none
  description : Option String := none
  control : Option String := none
  stage : Option String := none
  ttp : Option String := none
  detection : Option String := none

def joinPath (path name : String) : String :=
  if path.toList = [] ∨ path.toList.getLast? = some '/' then path ++ name
  else path ++ "/" ++ name

def displayPath (dir : String) (names : List OsStr) : String :=
  (names.map Utf8.fromUtf8Lossy).foldl joinPath dir

def forwardSlashes (text : String) : String :=
  String.ofList (text.toList.map fun c => if c = '\\' then '/' else c)

def relativeKey (names : List OsStr) : String :=
  forwardSlashes ("/".intercalate (names.map Utf8.fromUtf8Lossy))

def trimDotSlash : List Char → List Char
  | '.' :: '/' :: rest => trimDotSlash rest
  | path => path

def normalizeManifestPath (path : String) : String :=
  forwardSlashes (String.ofList (trimDotSlash path.toList))

/-- The stem and the extension of a file name, cut at its last dot. -/
def splitExtension (name : OsStr) : OsStr × Option OsStr :=
  let dot : UInt8 := 0x2e
  let after := (name.reverse.takeWhile (· ≠ dot)).reverse
  let before := name.take (name.length - after.length - 1)
  if name = [dot, dot] ∨ dot ∉ name ∨ before = [] then (name, none) else (before, some after)

def extension (names : List OsStr) : Option String := do
  let ext ← (splitExtension (← names.getLast?)).2
  Utf8.fromUtf8 ext

def fileStem (names : List OsStr) : Option String := do
  Utf8.fromUtf8 (splitExtension (← names.getLast?)).1

def isGuestModule (names : List OsStr) : Bool :=
  extension names = some "wat" || extension names = some "wasm"

mutual

def collectNode (dir : String) (names : List OsStr) : Node → Except String (List GuestFile)
  | .file opened => .ok (if isGuestModule names then [⟨names, opened⟩] else [])
  | .dir entries => collectEntries dir names entries
  | .unreadable err => .error s!"failed to read {displayPath dir names}: {err}"
  | .unlisted err => .error s!"failed to read directory entry: {err}"
  | .uninspected err => .error s!"failed to inspect {displayPath dir names}: {err}"

def collectEntries (dir : String) (names : List OsStr) :
    List (OsStr × Node) → Except String (List GuestFile)
  | [] => .ok []
  | (name, node) :: entries => do
    let files ← collectNode dir (names ++ [name]) node
    let more ← collectEntries dir names entries
    return files ++ more

end

def parseQuotedString (lineNumber : Nat) : List Char → Except String (List Char)
  | [] => .ok []
  | '\\' :: [] => .error s!"line {lineNumber}: trailing escape in string"
  | '\\' :: escaped :: chars => do
    let ch ← match escaped with
      | '"' => pure '"'
      | '\\' => pure '\\'
      | 'n' => pure '\n'
      | 'r' => pure '\r'
      | 't' => pure '\t'
      | other => throw s!"line {lineNumber}: unsupported escape \\{other}"
    let out ← parseQuotedString lineNumber chars
    return ch :: out
  | ch :: chars => do
    let out ← parseQuotedString lineNumber chars
    return ch :: out

def parseQuotedOrBare (value : List Char) (lineNumber : Nat) : Except String String :=
  let value := Text.trim value
  if value.head? = some '"' then
    if value.getLast? ≠ some '"' ∨ value.length < 2 then
      .error s!"line {lineNumber}: unterminated string"
    else (parseQuotedString lineNumber value.tail.dropLast).map String.ofList
  else .ok (String.ofList value)

def CaseMetadata.applyKey (case : CaseMetadata) (lineNumber : Nat) (key value : String) :
    Except String CaseMetadata :=
  match key with
  | "file" => .ok { case with file := normalizeManifestPath value }
  | "name" => .ok { case with name := some value }
  | "expected" =>
    match parseCodeName value with
    | some code => .ok { case with expectedCode := some code }
    | none => .error s!"line {lineNumber}: unsupported expected code '{value}'"
  | "kind" =>
    match value with
    | "run" | "run_export" => .ok { case with kind := some .runExport }
    | "growth_probe" => .ok { case with kind := some .growthProbe }
    | "static_audit" => .ok { case with kind := some .staticAudit }
    | _ => .error s!"line {lineNumber}: unsupported kind '{value}'"
  | "category" => .ok { case with category := some value }
  | "severity" => .ok { case with severity := some value }
  | "description" => .ok { case with description := some value }
  | "control" => .ok { case with control := some value }
  | "stage" => .ok { case with stage := some value }
  | "ttp" => .ok { case with ttp := some value }
  | "detection" => .ok { case with detection := some value }
  | other => .error s!"line {lineNumber}: unsupported key '{other}'"

def parseManifestLines (cases : List CaseMetadata) (current : Option CaseMetadata) :
    Nat → List (List Char) → Except String (List CaseMetadata)
  | _, [] => .ok (cases ++ current.toList)
  | lineNumber, rawLine :: rawLines =>
    let line := Text.trim (rawLine.takeWhile (· ≠ '#'))
    if line = [] then parseManifestLines cases current (lineNumber + 1) rawLines
    else if line = "[[case]]".toList then
      parseManifestLines (cases ++ current.toList) (some {}) (lineNumber + 1) rawLines
    else
      match current with
      | none => .error s!"line {lineNumber}: expected [[case]] before key"
      | some case =>
        match Text.splitOnce '=' line with
        | none => .error s!"line {lineNumber}: expected key = value"
        | some (key, value) => do
          let value ← parseQuotedOrBare (Text.trim value) lineNumber
          let case ← case.applyKey lineNumber (String.ofList (Text.trim key)) value
          parseManifestLines cases (some case) (lineNumber + 1) rawLines

/-- The table of the cases by file, which must be named and named once. -/
def indexByFile (byFile : List CaseMetadata) :
    List CaseMetadata → Except String (List CaseMetadata)
  | [] => .ok byFile
  | case :: cases =>
    if case.file = "" then .error "corpus.toml case is missing file"
    else if byFile.any (·.file == case.file) then
      .error "corpus.toml contains duplicate file entries"
    else indexByFile (byFile ++ [case]) cases

def parseManifest (contents : String) : Except String (List CaseMetadata) := do
  let cases ← parseManifestLines [] none 1 (Text.lines contents.toList)
  indexByFile [] cases

def loadManifest (dir : String) (corpus : CorpusDir) : Except String (List CaseMetadata) :=
  match corpus.manifest with
  | none => .ok []
  | some (.error err) =>
    let path := joinPath dir "corpus.toml"
    .error s!"failed to read {path}: {err}"
  | some (.ok contents) => parseManifest contents

def readBoundedBytes (path : String) : Opened → Except String (List UInt8)
  | .unopened err => .error s!"failed to open {path}: {err}"
  | .unstated err => .error s!"failed to stat {path}: {err}"
  | .opened len contents =>
    if len > maxExternalModuleBytes then
      .error (s!"{path} is {len} bytes; max external module size is " ++
        s!"{maxExternalModuleBytes} bytes")
    else
      match contents with
      | .error err => .error s!"failed to read {path}: {err}"
      | .ok contents =>
        let bytes := contents.take (maxExternalModuleBytes + 1)
        if bytes.length > maxExternalModuleBytes then
          .error s!"{path} exceeded max external module size while reading"
        else .ok bytes

def readBoundedUtf8 (path : String) (opened : Opened) : Except String String := do
  let bytes ← readBoundedBytes path opened
  match Utf8.fromUtf8 bytes with
  | some text => return text
  | none =>
    throw s!"{path} is not valid UTF-8: {Utf8.errorText bytes.length 0 bytes}"

def loadCase (dir : String) (file : GuestFile) (rel : String) (metadata : Option CaseMetadata) :
    Except String GuestCase := do
  let path := displayPath dir file.names
  let metadata := metadata.getD {}
  let name := metadata.name.getD ((fileStem file.names).getD "external_guest")
  let source ← match extension file.names with
    | some "wat" => (readBoundedUtf8 path file.opened).map GuestSource.wat
    | some "wasm" => (readBoundedBytes path file.opened).map GuestSource.wasm
    | _ => throw s!"unsupported guest module {path}"
  return {
    name
    description := metadata.description.getD s!"external corpus module {rel}"
    expectedCode := metadata.expectedCode.getD Abi.ok
    kind := metadata.kind.getD .runExport
    category := metadata.category.getD "external"
    severity := metadata.severity.getD "info"
    control := metadata.control.getD "observe external guest under configured host policy"
    stage := metadata.stage.getD "external corpus validation"
    ttp := metadata.ttp.getD "external-host-import-abuse"
    detection := metadata.detection.getD
      "external guest telemetry records configured boundary decisions"
    sourcePath := forwardSlashes path
    source }

/-- The cases of the sorted files, and the manifest entries that none of them used. -/
def loadCases (dir : String) (metadata : List CaseMetadata) :
    List GuestFile → Except String (List GuestCase × List CaseMetadata)
  | [] => .ok ([], metadata)
  | file :: files => do
    let rel := relativeKey file.names
    let case ← loadCase dir file rel (metadata.find? (·.file == rel))
    let (cases, unused) ← loadCases dir (metadata.filter (·.file != rel)) files
    return (case :: cases, unused)

/-- Of several unused entries the error names the first of the manifest here; a hash map gives
them in no fixed order. -/
def loadCorpus (dir : String) (corpus : CorpusDir) : Except String (List GuestCase) := do
  if !corpus.isDir then
    throw s!"{dir} is not a directory"
  let metadata ← loadManifest dir corpus
  let files ← collectNode dir [] corpus.root
  if files = [] then
    throw s!"{dir} contains no .wat or .wasm files"
  let files := files.mergeSort fun a b => a.names ≤ b.names
  let (cases, unused) ← loadCases dir metadata files
  if let missing :: _ := unused then
    throw s!"corpus.toml references {missing.file}, but the file was not found"
  return cases

end WasmerSectest
