import WasmerSectest.CorpusLoading
import WasmerSectest.Lib.Directories
import WasmerSectest.PathAliases
import WasmerSectest.RecordedSessions

namespace WasmerSectest
set_option autoImplicit true

/-- The names on the way from the root. -/
abbrev Place := List OsStr

/-- The disk as a process sees it. -/
structure Disk where
  cwd : Place
  tree : Directories.Tree OsStr (List UInt8)

def osError : Directories.Trouble → String
  | .missing => "No such file or directory (os error 2)"
  | .occupied => "File exists (os error 17)"
  | .notDirectory => "Not a directory (os error 20)"
  | .isDirectory => "Is a directory (os error 21)"

def nulError : String := "file name contained an unexpected NUL byte"

namespace Path

def pieces (path : Path) : List OsStr := path.bytes.splitOn 0x2f

def start (cwd : Place) (path : Path) : Place :=
  if path.bytes.head? = some 0x2f then [] else cwd

def folder (cwd : Place) (path : Path) : Place :=
  unixMarks.follow (path.start cwd) path.pieces.dropLast

def leaf (path : Path) : OsStr := path.pieces.getLast (List.splitOn_ne_nil 0x2f path.bytes)

end Path

namespace Disk

/-- Where a path leads. -/
def place (disk : Disk) (path : Path) : Place :=
  unixMarks.follow (path.start disk.cwd) path.pieces

/-- `fs::create_dir_all`, with the answer of the operating system. The directories that a failed
call leaves behind are not followed. -/
def createDirAll (disk : Disk) (answer : Except String Unit) (path : Path) :
    Except String Disk :=
  if path.bytes = [] then .ok disk
  else if 0 ∈ path.bytes then .error nulError
  else
    match answer with
    | .error err => .error err
    | .ok () =>
      match disk.tree.makeDirs unixMarks (path.start disk.cwd) path.pieces with
      | .error trouble => .error (osError trouble)
      | .ok tree => .ok { disk with tree }

/-- The place of the file that a path names, for reading and for writing. -/
def openFile (disk : Disk) (path : Path) : Except String Place :=
  if 0 ∈ path.bytes then .error nulError
  else (disk.tree.locate unixMarks (path.start disk.cwd) path.pieces).mapError osError

def write (disk : Disk) (place : Place) (contents : List UInt8) : Disk :=
  { disk with tree := disk.tree.write place contents }

def read (disk : Disk) (path : Path) : Option (List UInt8) :=
  match disk.openFile path with
  | .error _ => none
  | .ok place => disk.tree.files place

end Disk

def GuestCase.wasmName (case : GuestCase) : String := s!"{case.name}.wasm"

/-- A file that was written, with what was left in it. -/
structure EmittedFile where
  case : GuestCase
  place : Place
  contents : List UInt8

/-- What `emit_wasm` leaves; `exit` is its last message where it ends the process. -/
structure Emission where
  disk : Disk
  written : List EmittedFile := []
  printed : List String := []
  exit : Option String := none

/-- How the operating system answers: a write that fails may have opened the file already, and
leaves something in it. -/
structure EmitAnswers where
  createDir : Except String Unit
  write : Nat → Except (String × Option (List UInt8)) Unit

section
variable (parseStr : String → Except String (List UInt8)) (answers : EmitAnswers)

def emitCases (dir : Path) (disk : Disk) : Nat → List GuestCase → Emission
  | _, [] => { disk }
  | index, case :: cases =>
    match case.source.wasmBytes parseStr with
    | .error err => { disk, exit := some s!"failed to parse {case.name}: {err}" }
    | .ok wasm =>
      let path := dir.join case.wasmName
      match disk.openFile path with
      | .error err => { disk, exit := some s!"failed to write {path.display}: {err}" }
      | .ok place =>
        match answers.write index with
        | .error (err, none) => { disk, exit := some s!"failed to write {path.display}: {err}" }
        | .error (err, some contents) =>
          { disk := disk.write place contents
            written := [⟨case, place, contents⟩]
            exit := some s!"failed to write {path.display}: {err}" }
        | .ok () =>
          let rest := emitCases dir (disk.write place wasm) (index + 1) cases
          { rest with
            written := ⟨case, place, wasm⟩ :: rest.written
            printed := path.display :: rest.printed }

def emitWasm (disk : Disk) (cases : List GuestCase) (dir : String) : Emission :=
  let dir : Path := ⟨Utf8.bytes dir⟩
  match disk.createDirAll answers.createDir dir with
  | .error err => { disk, exit := some s!"failed to create {dir.display}: {err}" }
  | .ok disk => emitCases parseStr answers dir disk 0 cases

/-- The cases up to the first that cannot be written, and this one too where its file is opened. -/
def openedCases (dir : Path) (disk : Disk) : Nat → List GuestCase → List GuestCase
  | _, [] => []
  | index, case :: cases =>
    if (case.source.wasmBytes parseStr).isOk && (disk.openFile (dir.join case.wasmName)).isOk then
      match answers.write index with
      | .error (_, none) => []
      | .error (_, some _) => [case]
      | .ok () => case :: openedCases dir disk (index + 1) cases
    else []

def reachedCases (disk : Disk) (cases : List GuestCase) (dir : String) : List GuestCase :=
  let dir : Path := ⟨Utf8.bytes dir⟩
  match disk.createDirAll answers.createDir dir with
  | .error _ => []
  | .ok disk => openedCases parseStr answers dir disk 0 cases

end

/-- Every file is directly in the output directory, no two cases share one, and at the end each
case has its module under its name. -/
structure Emission.Apart (parseStr : String → Except String (List UInt8)) (cases : List GuestCase)
    (dir : Path) (emission : Emission) : Prop where
  inside : ∀ file ∈ emission.written, ∃ name,
    file.place = emission.disk.place dir ++ [name]
  apart : (emission.written.map EmittedFile.place).Nodup
  present : emission.exit = none → ∀ case ∈ cases, ∃ wasm,
    case.source.wasmBytes parseStr = .ok wasm ∧
      emission.disk.read (dir.join case.wasmName) = some wasm

def GuestCase.wasmPath (case : GuestCase) : Path := ⟨Utf8.bytes case.wasmName⟩

/-- From the directory the name of every case leads back to it, and the names end differently. -/
structure NamesApart (root : Place) (cases : List GuestCase) : Prop where
  inside : ∀ case ∈ cases, case.wasmPath.folder root = root
  apart : (cases.map fun case => case.wasmPath.leaf).Nodup

theorem Path.getLast?_pieces (path : Path) : path.pieces.getLast? = some path.leaf :=
  List.getLast?_eq_some_getLast _

theorem Path.stem_pieces (dir : Path) (name : List UInt8) (cwd : Place) :
    ∃ before, (dir.stem ++ name).splitOn 0x2f = before ++ name.splitOn 0x2f ∧
      unixMarks.follow cwd before = unixMarks.follow cwd dir.pieces := by
  rw [Path.stem, Path.pieces]
  by_cases hempty : dir.bytes = []
  · rw [if_pos (.inl hempty), hempty]
    exact ⟨[], rfl, rfl⟩
  · by_cases hlast : dir.bytes.getLast? = some 0x2f
    · rw [if_pos (.inr hlast)]
      obtain ⟨init, heq⟩ := List.getLast?_eq_some_iff.1 hlast
      refine ⟨init.splitOn 0x2f, ?_, ?_⟩
      · rw [heq, List.append_assoc, List.singleton_append, List.splitOn_append_cons_self]
      · rw [heq, List.splitOn_append_cons_self, List.splitOn_nil, Segments.Marks.follow_append]
        rfl
    · rw [if_neg (not_or.2 ⟨hempty, hlast⟩), List.append_assoc, List.singleton_append,
        List.splitOn_append_cons_self]
      exact ⟨_, rfl, rfl⟩

theorem Path.start_join (cwd : Place) (dir : Path) (h : Relative name) :
    (dir.join name).start cwd = dir.start cwd := by
  rw [join_relative dir h, start, start, stem]
  cases hbytes : dir.bytes with
  | nil => exact if_neg h
  | cons b bytes =>
    split
    · rfl
    · rfl

theorem Disk.folder_join (disk : Disk) (dir : Path) (name : String) :
    (dir.join name).folder disk.cwd = Path.folder (disk.place dir) ⟨Utf8.bytes name⟩ := by
  by_cases hrel : Relative name
  · obtain ⟨before, hpieces, hbefore⟩ :=
      Path.stem_pieces dir (Utf8.bytes name) (dir.start disk.cwd)
    have hne : (Utf8.bytes name).splitOn 0x2f ≠ [] := List.splitOn_ne_nil 0x2f _
    have hstart : Path.start (disk.place dir) ⟨Utf8.bytes name⟩ = disk.place dir := if_neg hrel
    rw [Path.folder, Path.start_join _ _ hrel, join_relative dir hrel, Path.pieces, hpieces,
      List.dropLast_append_of_ne_nil hne, Segments.Marks.follow_append, hbefore, Path.folder, hstart]
    rfl
  · have habs : (Utf8.bytes name).head? = some 0x2f := not_not.1 hrel
    rw [Path.join, if_pos habs, Path.folder, Path.folder, Path.start, Path.start, if_pos habs,
      if_pos habs]

theorem Path.leaf_join (dir : Path) (name : String) :
    (dir.join name).leaf = Path.leaf ⟨Utf8.bytes name⟩ := by
  by_cases hrel : Relative name
  · obtain ⟨before, hpieces, -⟩ := stem_pieces dir (Utf8.bytes name) []
    apply Option.some.inj
    rw [← getLast?_pieces, ← getLast?_pieces, join_relative dir hrel, pieces, hpieces,
      List.getLast?_append_of_ne_nil _ (List.splitOn_ne_nil 0x2f _)]
    rfl
  · rw [join, if_pos (not_not.1 hrel)]

def GuestCase.emittedAt (root : Place) (case : GuestCase) : Place :=
  case.wasmPath.folder root ++ [case.wasmPath.leaf]

theorem openFile_ok_iff {disk : Disk} :
    disk.openFile path = .ok place ↔ 0 ∉ path.bytes ∧
      disk.tree.locate unixMarks (path.start disk.cwd) path.pieces = .ok place := by
  rw [Disk.openFile]
  split
  · next hnul =>
    apply iff_of_false
    · intro h
      cases h
    · intro h
      exact h.1 hnul
  · next hnul =>
    rw [and_iff_right hnul]
    cases disk.tree.locate unixMarks (path.start disk.cwd) path.pieces with
    | ok found =>
      change Except.ok found = Except.ok place ↔ _
      rw [Except.ok.injEq, Except.ok.injEq]
    | error trouble =>
      apply iff_of_false
      · intro h
        cases h
      · intro h
        cases h

theorem openFile_emittedAt {disk : Disk} {dir : Path} {case : GuestCase}
    (h : disk.openFile (dir.join case.wasmName) = .ok place) :
    place = case.emittedAt (disk.place dir) := by
  obtain ⟨piece, hpiece, hplace⟩ := Directories.Tree.locate_follow (openFile_ok_iff.1 h).2
  obtain rfl := Option.some.inj ((Path.getLast?_pieces _).symm.trans hpiece)
  change place = (dir.join case.wasmName).folder disk.cwd ++ [_] at hplace
  rw [hplace, disk.folder_join, Path.leaf_join]
  rfl

theorem openFile_of_isDir_eq {disk disk' : Disk} (hcwd : disk'.cwd = disk.cwd)
    (hdir : disk'.tree.isDir = disk.tree.isDir) (h : disk.openFile path = .ok place) :
    disk'.openFile path = .ok place := by
  obtain ⟨hnul, hlocate⟩ := openFile_ok_iff.1 h
  apply openFile_ok_iff.2
  rw [hcwd]
  exact ⟨hnul, Directories.Tree.locate_of_isDir_eq hdir hlocate⟩

theorem openFile_write_ok_iff {disk : Disk} :
    (disk.write place contents).openFile path = .ok found ↔ disk.openFile path = .ok found :=
  ⟨openFile_of_isDir_eq rfl rfl, openFile_of_isDir_eq rfl rfl⟩

theorem isOk_eq {x : Except ε α} {y : Except ε α} (h : ∀ a, x = .ok a ↔ y = .ok a) :
    x.isOk = y.isOk := by
  cases x with
  | ok a => rw [(h a).1 rfl]
  | error e =>
    cases y with
    | ok a => cases (h a).2 rfl
    | error e => rfl

theorem openFile_isOk_write (disk : Disk) (place : Place) (contents : List UInt8) (path : Path) :
    ((disk.write place contents).openFile path).isOk = (disk.openFile path).isOk :=
  isOk_eq fun _ => openFile_write_ok_iff

theorem createDirAll_place {disk made : Disk}
    (h : disk.createDirAll answer path = .ok made) (target : Path) :
    made.place target = disk.place target := by
  have hcwd : made.cwd = disk.cwd := by
    unfold Disk.createDirAll at h
    split at h
    · rw [← Except.ok.inj h]
    · split at h
      · cases h
      · split at h
        · cases h
        · split at h
          · cases h
          · rw [← Except.ok.inj h]
  rw [Disk.place, hcwd, Disk.place]

section
variable {parseStr : String → Except String (List UInt8)} {answers : EmitAnswers} {dir : Path}

/-- How the loop goes on from a disk, with the cases whose files it opens. -/
inductive EmitRun (parseStr : String → Except String (List UInt8)) (dir : Path) :
    Disk → List GuestCase → List GuestCase → Emission → Prop
  | done (disk : Disk) : EmitRun parseStr dir disk [] [] { disk }
  | stopped (disk : Disk) (case : GuestCase) (cases : List GuestCase) (message : String) :
    EmitRun parseStr dir disk (case :: cases) [] { disk, exit := some message }
  | torn {case : GuestCase} (hopen : disk.openFile (dir.join case.wasmName) = .ok place)
      (contents : List UInt8) (cases : List GuestCase) (message : String) :
    EmitRun parseStr dir disk (case :: cases) [case]
      { disk := disk.write place contents, written := [⟨case, place, contents⟩],
        exit := some message }
  | wrote {case : GuestCase}
      (hwasm : case.source.wasmBytes parseStr = .ok wasm)
      (hopen : disk.openFile (dir.join case.wasmName) = .ok place)
      (hrest : EmitRun parseStr dir (disk.write place wasm) cases opened rest) :
    EmitRun parseStr dir disk (case :: cases) (case :: opened)
      { rest with
        written := ⟨case, place, wasm⟩ :: rest.written
        printed := (dir.join case.wasmName).display :: rest.printed }

theorem openedCases_write (disk : Disk) (place : Place) (contents : List UInt8) (index : Nat)
    (cases : List GuestCase) :
    openedCases parseStr answers dir (disk.write place contents) index cases =
      openedCases parseStr answers dir disk index cases := by
  induction cases generalizing index with
  | nil => rfl
  | cons case cases ih => rw [openedCases, openedCases, openFile_isOk_write, ih]

theorem emitCases_run (disk : Disk) (index : Nat) (cases : List GuestCase) :
    EmitRun parseStr dir disk cases (openedCases parseStr answers dir disk index cases)
      (emitCases parseStr answers dir disk index cases) := by
  induction cases generalizing disk index with
  | nil => exact .done disk
  | cons case cases ih =>
    rw [openedCases, emitCases]
    cases hwasm : case.source.wasmBytes parseStr with
    | error err => exact .stopped disk case cases _
    | ok wasm =>
      cases hopen : disk.openFile (dir.join case.wasmName) with
      | error err =>
        simp only [hopen]
        exact .stopped disk case cases _
      | ok place =>
        cases hanswer : answers.write index with
        | error failure =>
          obtain ⟨err, _ | contents⟩ := failure
          · simp only [hopen]
            exact .stopped disk case cases _
          · simp only [hopen]
            exact .torn hopen contents cases _
        | ok _ =>
          have hrest := ih (disk.write place wasm) (index + 1)
          rw [openedCases_write] at hrest
          simp only [hopen]
          exact .wrote hwasm hopen hrest

theorem EmitRun.places {emission : Emission}
    (h : EmitRun parseStr dir disk cases opened emission) :
    emission.written.map EmittedFile.place =
      opened.map (GuestCase.emittedAt (disk.place dir)) := by
  induction h with
  | done => rfl
  | stopped => rfl
  | torn hopen =>
    rw [openFile_emittedAt hopen]
    rfl
  | wrote hwasm hopen _ ih =>
    rw [List.map_cons, List.map_cons, ih, openFile_emittedAt hopen]
    rfl

theorem EmitRun.cwd_eq {emission : Emission}
    (h : EmitRun parseStr dir disk cases opened emission) :
    emission.disk.cwd = disk.cwd := by
  induction h with
  | done => rfl
  | stopped => rfl
  | torn => rfl
  | wrote _ _ _ ih => exact ih

theorem EmitRun.isDir_eq {emission : Emission}
    (h : EmitRun parseStr dir disk cases opened emission) :
    emission.disk.tree.isDir = disk.tree.isDir := by
  induction h with
  | done => rfl
  | stopped => rfl
  | torn => rfl
  | wrote _ _ _ ih => exact ih

theorem EmitRun.files_eq {emission : Emission}
    (h : EmitRun parseStr dir disk cases opened emission) :
    emission.disk.tree.files = Writes.apply disk.tree.files
      (emission.written.map fun file => (file.place, file.contents)) := by
  induction h with
  | done => rfl
  | stopped => rfl
  | torn => rfl
  | wrote _ _ _ ih => exact ih

theorem EmitRun.finished {emission : Emission}
    (h : EmitRun parseStr dir disk cases opened emission) (hexit : emission.exit = none) :
    ∀ case ∈ cases, ∃ file ∈ emission.written, disk.openFile (dir.join case.wasmName) = .ok file.place ∧
      case.source.wasmBytes parseStr = .ok file.contents := by
  induction h with
  | done =>
    intro case hcase
    cases hcase
  | stopped => cases hexit
  | torn => cases hexit
  | wrote hwasm hopen _ ih =>
    intro case hcase
    rcases List.mem_cons.1 hcase with rfl | hcase
    · exact ⟨_, List.mem_cons_self, hopen, hwasm⟩
    · obtain ⟨file, hfile, hopen', hwasm'⟩ := ih hexit case hcase
      exact ⟨file, List.mem_cons_of_mem _ hfile, openFile_write_ok_iff.1 hopen', hwasm'⟩

theorem EmitRun.present {emission : Emission}
    (h : EmitRun parseStr dir disk cases opened emission)
    (hapart : (emission.written.map EmittedFile.place).Nodup) (hexit : emission.exit = none) :
    ∀ case ∈ cases, ∃ wasm, case.source.wasmBytes parseStr = .ok wasm ∧
      emission.disk.read (dir.join case.wasmName) = some wasm := by
  intro case hcase
  obtain ⟨file, hfile, hopen, hwasm⟩ := h.finished hexit case hcase
  refine ⟨file.contents, hwasm, ?_⟩
  rw [Disk.read, openFile_of_isDir_eq h.cwd_eq h.isDir_eq hopen, h.files_eq]
  have hkeys : ((emission.written.map fun file => (file.place, file.contents)).map Prod.fst) =
      emission.written.map EmittedFile.place := List.map_map
  exact Writes.apply_of_nodup disk.tree.files (hkeys ▸ hapart) (List.mem_map_of_mem hfile)

theorem GuestCase.emittedAt_inside_iff {root : Place} {case : GuestCase} :
    (∃ name, case.emittedAt root = root ++ [name]) ↔ case.wasmPath.folder root = root := by
  constructor
  · intro h
    obtain ⟨name, hname⟩ := h
    exact (List.append_inj' hname rfl).1
  · intro h
    rw [emittedAt, h]
    exact ⟨_, rfl⟩

theorem nodup_emittedAt_iff {root : Place}
    {opened : List GuestCase}
    (h : ∀ case ∈ opened, case.wasmPath.folder root = root) :
    (opened.map (GuestCase.emittedAt root)).Nodup ↔
      (opened.map fun case => case.wasmPath.leaf).Nodup := by
  have hinj : Function.Injective fun name : OsStr => root ++ [name] := by
    intro name name' heq
    exact List.head_eq_of_cons_eq (List.append_cancel_left heq)
  have hmap : opened.map (GuestCase.emittedAt root) =
      (opened.map fun case => case.wasmPath.leaf).map fun name => root ++ [name] := by
    rw [List.map_map]
    apply List.map_congr_left
    intro case hcase
    rw [GuestCase.emittedAt, h case hcase]
    rfl
  rw [hmap, List.nodup_map_iff hinj]

theorem EmitRun.apart_iff {emission : Emission} {disk : Disk}
    (h : EmitRun parseStr dir disk cases opened emission) :
    emission.Apart parseStr cases dir ↔ NamesApart (disk.place dir) opened := by
  have hplace : emission.disk.place dir = disk.place dir := by
    rw [Disk.place, h.cwd_eq, Disk.place]
  have hinside : (∀ file ∈ emission.written, ∃ name,
      file.place = emission.disk.place dir ++ [name]) ↔
        ∀ case ∈ opened, case.wasmPath.folder (disk.place dir) = disk.place dir := by
    rw [← List.forall_mem_map (P := fun place => ∃ name, place = _ ++ [name]), h.places, hplace,
      List.forall_mem_map]
    exact forall₂_congr fun case _ => GuestCase.emittedAt_inside_iff
  constructor
  · intro h'
    obtain ⟨hin, hapart, -⟩ := h'
    have hfolder := hinside.1 hin
    rw [h.places] at hapart
    exact ⟨hfolder, (nodup_emittedAt_iff hfolder).1 hapart⟩
  · intro h'
    obtain ⟨hfolder, hleaf⟩ := h'
    have hapart : (emission.written.map EmittedFile.place).Nodup := by
      rw [h.places]
      exact (nodup_emittedAt_iff hfolder).2 hleaf
    exact ⟨hinside.2 hfolder, hapart, h.present hapart⟩

end

/-- The modules go into the output directory, each into a file of its own, just when the names of
the cases that get written lead back to the directory and end differently. -/
theorem emitted_apart_iff (parseStr : String → Except String (List UInt8))
    (answers : EmitAnswers) (disk : Disk) (cases : List GuestCase) (dir : String) :
    (emitWasm parseStr answers disk cases dir).Apart parseStr cases ⟨Utf8.bytes dir⟩ ↔
      NamesApart (disk.place ⟨Utf8.bytes dir⟩) (reachedCases parseStr answers disk cases dir) := by
  rw [emitWasm, reachedCases]
  cases hcreate : disk.createDirAll answers.createDir ⟨Utf8.bytes dir⟩ with
  | error err =>
    simp only
    apply iff_of_true
    · refine ⟨?_, List.nodup_nil, ?_⟩
      · intro file hfile
        cases hfile
      · intro hexit
        cases hexit
    · refine ⟨?_, List.nodup_nil⟩
      intro case hcase
      cases hcase
  | ok made =>
    simp only
    rw [← createDirAll_place hcreate]
    exact (emitCases_run made 0 cases).apart_iff

def climbingCorpus : CorpusDir where
  isDir := true
  manifest := some (.ok "[[case]]\nfile = \"a.wasm\"\nname = \"../a\"\n")
  root := .dir [(asciiName "a.wasm", .file (.bytes []))]

def climbingFile : GuestFile := ⟨[asciiName "a.wasm"], .bytes []⟩

def climbingEntry : CaseMetadata := { file := "a.wasm", name := some "../a" }

def emptyHome : Disk where
  cwd := [asciiName "home"]
  tree :=
    { isDir := fun place => place = [] ∨ place = [asciiName "home"]
      files := fun _ => none }

def EmitAnswers.success : EmitAnswers := ⟨.ok (), fun _ => .ok ()⟩

theorem climbing_emission {case : GuestCase} (hname : case.name = "../a")
    (hsource : case.source = .wasm []) :
    (emitWasm .error .success emptyHome [case] "out").written =
        [⟨case, [asciiName "home", asciiName "a.wasm"], []⟩] ∧
      (emitWasm .error .success emptyHome [case] "out").disk.place ⟨Utf8.bytes "out"⟩ =
        [asciiName "home", asciiName "out"] := by
  cases case
  cases hname
  cases hsource
  exact ⟨rfl, rfl⟩

theorem climbing_name_leaves_directory :
    ∃ case, loadCorpus "corpus" climbingCorpus = .ok [case] ∧
      (emitWasm .error .success emptyHome [case] "out").written =
        [⟨case, [asciiName "home", asciiName "a.wasm"], []⟩] ∧
      ¬(emitWasm .error .success emptyHome [case] "out").Apart .error [case]
        ⟨Utf8.bytes "out"⟩ := by
  have hcase : ∃ case, loadCases "corpus" [climbingEntry] [climbingFile] = .ok ([case], []) ∧
      case.name = "../a" ∧ case.source = .wasm [] := by
    refine ⟨_, rfl, rfl, ?_⟩
    rfl
  obtain ⟨case, hcase, hname, hsource⟩ := hcase
  have hsort : sortFiles [climbingFile] = [climbingFile] :=
    List.mergeSort_singleton climbingFile
  have hload : loadCorpus "corpus" climbingCorpus = .ok [case] := by
    apply loadCorpus_ok_iff.2
    refine ⟨rfl, [climbingEntry], [climbingFile], rfl, rfl, List.cons_ne_nil _ _, ?_⟩
    rw [hsort, hcase]
  obtain ⟨hwritten, hplace⟩ := climbing_emission hname hsource
  refine ⟨case, hload, hwritten, ?_⟩
  intro h
  obtain ⟨name, hat⟩ := h.inside _ (hwritten ▸ List.mem_singleton_self _)
  rw [hplace] at hat
  cases congrArg List.length hat

end WasmerSectest
