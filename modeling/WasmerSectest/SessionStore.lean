import Mathlib
import WasmerSectest.HoneypotFileSystem
import WasmerSectest.Session
import WasmerSectest.Supervisor

namespace WasmerSectest
set_option autoImplicit true

/-- `Path::join` on Unix: a name that starts with a slash stands alone. -/
def Path.join (path : Path) (name : String) : Path :=
  let bytes := Utf8.bytes name
  if bytes.head? = some 0x2f then ⟨bytes⟩
  else if path.bytes = [] ∨ path.bytes.getLast? = some 0x2f then ⟨path.bytes ++ bytes⟩
  else ⟨path.bytes ++ 0x2f :: bytes⟩

def Path.display (path : Path) : String := Utf8.fromUtf8Lossy path.bytes

/-- The contents of the files there are. -/
abbrev Files := Path → Option (List UInt8)

namespace Files

/-- `fs::write`: what the file held before is gone. -/
def write (files : Files) (path : Path) (contents : List UInt8) : Files :=
  Function.update files path (some contents)

/-- A write to a file that is opened to create and append. -/
def append (files : Files) (path : Path) (contents : List UInt8) : Files :=
  Function.update files path (some ((files path).getD [] ++ contents))

/-- `fs::read_to_string`. -/
def readToString (files : Files) (path : Path) : Except String String :=
  match files path with
  | none => .error "No such file or directory (os error 2)"
  | some contents =>
    match Utf8.fromUtf8 contents with
    | none => .error "stream did not contain valid UTF-8"
    | some text => .ok text

end Files

/-- `std::time::Duration`. -/
structure Duration where
  secs : UInt64
  nanos : Fin 1000000000
  deriving DecidableEq

def Duration.fromSecs (secs : UInt64) : Duration := ⟨secs, 0⟩

def Duration.asMillis (duration : Duration) : U128 :=
  BitVec.ofNat 128 (duration.secs.toNat * 1000 + duration.nanos.val / 1000000)

/-- `sinceEpoch` is absent where the clock stands before the epoch. -/
def unixMillis (sinceEpoch : Option Duration) : U128 := (sinceEpoch.getD (.fromSecs 0)).asMillis

def cleanTsv (value : String) : String :=
  String.ofList (value.toList.map fun c => if c = '\t' ∨ c = '\n' ∨ c = '\r' then ' ' else c)

def slugify (value : String) : String :=
  let slug := value.toList.map fun c => if c.isAlphanum then c.toLower else '-'
  let parts := (slug.splitOn '-').filter fun part => !part.isEmpty
  let slug := ['-'].intercalate parts
  if slug.isEmpty then "run" else String.ofList slug

/-- How the operating system answers the calls of one recording: where it fails, the error and
what the call leaves behind. -/
structure RecordOutcome where
  createDir : Except String Unit
  write : Except (String × Option (List UInt8)) Unit
  openIndex : Except String Unit
  update : Except (String × Nat) Unit

def RecordOutcome.success : RecordOutcome := ⟨.ok (), .ok (), .ok (), .ok ()⟩

section
variable [HostArch]

/-- One call of `record_run`, with what it finds in its environment. -/
structure RecordCall where
  label : String
  config : Config
  policy : Policy
  reports : List CaseReport
  reports_lt : reports.length < 2 ^ HostArch.usizeBits
  sinceEpoch : Option Duration
  commandVersion : String → List String → Option String
  outcome : RecordOutcome

def RecordCall.createdUnixMs (call : RecordCall) : U128 := unixMillis call.sinceEpoch

def RecordCall.id (call : RecordCall) : String := toString call.createdUnixMs.toNat

def RecordCall.fileName (call : RecordCall) : String :=
  s!"session-{call.id}-{slugify call.label}.json"

omit [HostArch] in
def indexLine (summary : SessionSummary) : String :=
  s!"{summary.id}\t{summary.createdUnixMs.toNat}\t{cleanTsv summary.label}\t" ++
  s!"{summary.backend}\t{summary.isolation}\t{summary.total}\t{summary.passed}\t" ++
  s!"{summary.failed}\t{summary.totalRuntimeUs.toNat}\t{cleanTsv summary.path}"

def parseUsize (value : List Char) : Option Nat :=
  Decimal.parseUnsigned (2 ^ HostArch.usizeBits) value

def parseIndexLine (line : List Char) : Option SessionSummary :=
  match line.splitOn '\t' with
  | [id, createdUnixMs, label, backend, isolation, total, passed, failed, totalRuntimeUs, path] =>
    do
      let createdUnixMs ← parseBits 128 createdUnixMs
      let total ← parseUsize total
      let passed ← parseUsize passed
      let failed ← parseUsize failed
      let totalRuntimeUs ← parseBits 128 totalRuntimeUs
      return {
        id := String.ofList id, createdUnixMs, label := String.ofList label,
        backend := String.ofList backend, isolation := String.ofList isolation, total, passed,
        failed, totalRuntimeUs, path := String.ofList path }
  | _ => none

structure SessionStore where
  dir : Path
  indexPath : Path

namespace SessionStore

omit [HostArch] in
def new (path : Path) : SessionStore where
  dir := path
  indexPath := path.join "index.tsv"

omit [HostArch] in
def default : SessionStore := new ⟨Utf8.bytes "target/security-sessions"⟩

variable (store : SessionStore)

def sessionPath (call : RecordCall) : Path := store.dir.join call.fileName

def summary (call : RecordCall) : SessionSummary :=
  Session.makeSummary call.id call.createdUnixMs call.label call.config call.reports
    (store.sessionPath call).display

def contents (call : RecordCall) : String :=
  Session.renderSessionJson call.commandVersion (store.summary call) call.label call.config
    call.policy call.reports

def recordRun (files : Files) (call : RecordCall) : Except String SessionSummary × Files :=
  match call.outcome.createDir with
  | .error err => (.error s!"failed to create {store.dir.display}: {err}", files)
  | .ok () =>
    let path := store.sessionPath call
    let summary := store.summary call
    match call.outcome.write with
    | .error (err, contents) =>
      (.error s!"failed to write {path.display}: {err}",
        (contents.map (files.write path)).getD files)
    | .ok () =>
      let files := files.write path (Utf8.bytes (store.contents call))
      match call.outcome.openIndex with
      | .error err => (.error s!"failed to open {store.indexPath.display}: {err}", files)
      | .ok () =>
        let line := Utf8.bytes (indexLine summary ++ "\n")
        match call.outcome.update with
        | .error (err, written) =>
          (.error s!"failed to update {store.indexPath.display}: {err}",
            files.append store.indexPath (line.take written))
        | .ok () => (.ok summary, files.append store.indexPath line)

def listRecent (files : Files) (limit : Usize) : Except String (List SessionSummary) :=
  if (files store.indexPath).isNone then .ok []
  else do
    let contents ← (files.readToString store.indexPath).mapError fun err =>
      s!"failed to read {store.indexPath.display}: {err}"
    let sessions := (Text.lines contents.toList).filterMap parseIndexLine
    return sessions.reverse.take limit.toNat

def latest (files : Files) : Except String (Option SessionSummary) := do
  let sessions ← store.listRecent files 1
  return sessions.head?

omit [HostArch] in
def readSession (files : Files) (summary : SessionSummary) : Except String String :=
  (files.readToString ⟨Utf8.bytes summary.path⟩).mapError fun err =>
    s!"failed to read {summary.path}: {err}"

end SessionStore

end

end WasmerSectest
