import WasmerSectest.Lib.Returns
import WasmerSectest.ManifestPaths

namespace WasmerSectest
set_option autoImplicit true

mutual

def Node.Distinct : Node → Prop
  | .file _ => True
  | .dir entries => (entries.map Prod.fst).Nodup ∧ EntriesDistinct entries
  | .unreadable _ => True
  | .unlisted _ => True
  | .uninspected _ => True

def EntriesDistinct : List (OsStr × Node) → Prop
  | [] => True
  | (_, node) :: entries => node.Distinct ∧ EntriesDistinct entries

end

mutual

/-- The same tree with its directories enumerated in other orders. -/
inductive Reordered : Node → Node → Prop
  | file (opened : Opened) : Reordered (.file opened) (.file opened)
  | dir : EntriesReordered entries entries' → Reordered (.dir entries) (.dir entries')
  | unreadable (err : String) : Reordered (.unreadable err) (.unreadable err)
  | unlisted (err : String) : Reordered (.unlisted err) (.unlisted err)
  | uninspected (err : String) : Reordered (.uninspected err) (.uninspected err)

inductive EntriesReordered : List (OsStr × Node) → List (OsStr × Node) → Prop
  | nil : EntriesReordered [] []
  | cons (name : OsStr) : Reordered node node' → EntriesReordered entries entries' →
      EntriesReordered ((name, node) :: entries) ((name, node') :: entries')
  | swap (first second : OsStr × Node) (entries : List (OsStr × Node)) :
      EntriesReordered (first :: second :: entries) (second :: first :: entries)
  | trans : EntriesReordered entries entries' → EntriesReordered entries' entries'' →
      EntriesReordered entries entries''

end

/-- Two walks that find the same files in some order, or both fail. -/
inductive SameFiles : Except String (List GuestFile) → Except String (List GuestFile) → Prop
  | ok : files.Perm files' → SameFiles (.ok files) (.ok files')
  | error (err err' : String) : SameFiles (.error err) (.error err')

theorem SameFiles.refl (x : Except String (List GuestFile)) : SameFiles x x := by
  cases x with
  | error err => exact .error err err
  | ok files => exact .ok (List.Perm.refl files)

theorem SameFiles.trans (h : SameFiles x y) (h' : SameFiles y z) : SameFiles x z := by
  cases h with
  | error err err' =>
    cases h' with
    | error _ err'' => exact .error err err''
  | ok hperm =>
    cases h' with
    | ok hperm' => exact .ok (hperm.trans hperm')

def sortFiles (files : List GuestFile) : List GuestFile :=
  files.mergeSort fun a b => a.names ≤ b.names

theorem loadCases_cons {dir : String} {file : GuestFile} {files : List GuestFile}
    {metadata unused : List CaseMetadata} {case : GuestCase} {cases : List GuestCase}
    {rel : String} (hrel : relativeKey file.names = rel)
    (hcase : loadCase dir file rel (metadata.find? (·.file == rel)) = .ok case)
    (hmore : loadCases dir (metadata.filter (·.file != rel)) files = .ok (cases, unused)) :
    loadCases dir metadata (file :: files) = .ok (case :: cases, unused) := by
  rw [loadCases, hrel, hcase]
  change (loadCases dir (metadata.filter (·.file != rel)) files >>= _) = _
  rw [hmore]
  rfl

theorem loadCorpus_ok_iff {dir : String} {corpus : CorpusDir} {cases : List GuestCase} :
    loadCorpus dir corpus = .ok cases ↔
      corpus.isDir = true ∧ ∃ metadata files, loadManifest dir corpus = .ok metadata ∧
        collectNode dir [] corpus.root = .ok files ∧ files ≠ [] ∧
        loadCases dir metadata (sortFiles files) = .ok (cases, []) := by
  rw [loadCorpus]
  constructor
  · intro h
    split at h
    case isTrue => cases h
    case isFalse hdir =>
      obtain ⟨metadata, hmanifest, h⟩ := Returns.bind_ok h
      obtain ⟨files, hfiles, h⟩ := Returns.bind_ok h
      split at h
      case isTrue => cases h
      case isFalse hne =>
        obtain ⟨⟨loaded, unused⟩, hcases, h⟩ := Returns.bind_ok h
        cases unused with
        | cons missing unused => cases h
        | nil =>
          cases h
          refine ⟨?_, metadata, files, hmanifest, hfiles, hne, hcases⟩
          simpa using hdir
  · intro h
    obtain ⟨hdir, metadata, files, hmanifest, hfiles, hne, hcases⟩ := h
    have hsort : (files.mergeSort fun a b => a.names ≤ b.names) = sortFiles files := rfl
    simp only [hdir, hmanifest, hfiles, hne, hsort, hcases, bind, Except.bind]
    rfl

def asciiName (name : String) : OsStr := name.toList.map fun c => UInt8.ofNat c.toNat

def oneGuest : GuestFile := ⟨[asciiName "a.wasm"], .bytes []⟩

def oneGuestCorpus (manifest : String) : CorpusDir where
  isDir := true
  manifest := some (.ok manifest)
  root := .dir [(asciiName "a.wasm", .file (.bytes []))]

theorem loadCorpus_oneGuest (h : parseManifest manifest = .ok [metadata])
    (hfile : metadata.file = "a.wasm") :
    ∃ case, loadCorpus "corpus" (oneGuestCorpus manifest) = .ok [case] ∧
      loadCase "corpus" oneGuest "a.wasm" (some metadata) = .ok case := by
  have hcase : ∃ case, loadCase "corpus" oneGuest "a.wasm" (some metadata) = .ok case :=
    ⟨_, rfl⟩
  obtain ⟨case, hcase⟩ := hcase
  have hsort : sortFiles [oneGuest] = [oneGuest] := List.mergeSort_singleton oneGuest
  have hrel : relativeKey oneGuest.names = "a.wasm" := by decide
  have hfind : [metadata].find? (·.file == "a.wasm") = some metadata := by
    rw [List.find?_cons, hfile]
    rfl
  have hfilter : [metadata].filter (·.file != "a.wasm") = [] := by
    rw [List.filter_cons, hfile]
    rfl
  have hcases : loadCases "corpus" [metadata] [oneGuest] = .ok ([case], []) :=
    loadCases_cons hrel (by rw [hfind, hcase]) (by rw [hfilter]; rfl)
  refine ⟨case, ?_, hcase⟩
  apply loadCorpus_ok_iff.2
  refine ⟨rfl, [metadata], [oneGuest], h, rfl, List.cons_ne_nil _ _, ?_⟩
  rw [hsort, hcases]

end WasmerSectest
