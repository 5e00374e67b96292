import WasmerSectest.HoneypotFileSystem

namespace WasmerSectest
set_option autoImplicit true

variable {ρ ω φ : Type}

def FsCall.Mutates (path : Path) : FsCall φ → Prop
  | .createDir p | .removeDir p | .removeFile p | .mount _ p _ => p = path
  | .rename source target => source = path ∨ target = path
  | .openFile p conf => p = path ∧ conf.wouldMutate = true
  | .readlink _ | .readDir _ | .metadata _ | .symlinkMetadata _ => False

def FsReply.Denied : FsReply ω → Prop
  | .link result => result = .error .permissionDenied
  | .entries result => result = .error .permissionDenied
  | .metadata result => result = .error .permissionDenied
  | .done result => result = .error .permissionDenied
  | .opened result => result = .error .permissionDenied

/-- The call is refused, leaves one event about the decoy, and does not reach the root. -/
structure MutationDenied (decoy : Decoy) (fs : HoneypotFileSystem ρ)
    (out : (FsReply ω × List HoneypotEvent) × HoneypotFileSystem ρ) : Prop where
  denied : out.1.1.Denied
  recorded : out.1.2 = [decoy.event .denyMutation]
  logged : out.2.events = recordEvent honeypotEventCapacity fs.events (decoy.event .denyMutation)
  unchanged : out.2.root = fs.root

/-- The calls that look whether they name a decoy, and find this one. -/
def FsCall.Guards (decoy : Decoy) : FsCall φ → Prop
  | .createDir _ | .mount .. => False
  | .rename source _ => decoyFor source = none ∨ decoyFor source = some decoy
  | _ => True

theorem decoyFor_path (h : decoyFor path = some decoy) : decoy.path = normalizedPath path := by
  rw [decoyFor] at h
  split at h
  case h_6 => cases h
  all_goals
    next heq =>
      obtain rfl := Option.some.inj h
      exact heq.symm

theorem decoy_eq_of_path (h : decoyFor path = some decoy) (h' : decoyFor path' = some decoy')
    (he : decoy.path = decoy'.path) : decoy = decoy' := by
  rw [decoyFor_path h, decoyFor_path h'] at he
  rw [decoyFor, he, ← decoyFor, h'] at h
  exact (Option.some.inj h).symm

namespace HoneypotFileSystem

variable {fs : HoneypotFileSystem ρ} {decoy : Decoy}

theorem guarded_decoy (call : ρ → Except FsError α × ρ) :
    fs.guarded (some decoy) call =
      ((.error .permissionDenied, [decoy.event .denyMutation]),
        fs.record (decoy.event .denyMutation)) := rfl

theorem openFile_denied {fileSystem : RootFileSystem ρ ω φ} {path : Path}
    {conf : OpenOptionsConfig} (hp : decoyFor path = some decoy) (hm : conf.wouldMutate = true) :
    openFile fileSystem fs path conf =
      ((.error .permissionDenied, [decoy.event .denyMutation]),
        fs.record (decoy.event .denyMutation)) := by
  rw [openFile, hp, hm]
  rfl

end HoneypotFileSystem

open HoneypotFileSystem

variable {decoy : Decoy} {path : Path} {fs : HoneypotFileSystem ρ}

theorem rename_denied_iff {fileSystem : RootFileSystem ρ ω φ} {source target : Path}
    (hp : decoyFor path = some decoy) (hm : source = path ∨ target = path) :
    MutationDenied decoy fs (step fileSystem fs (.rename source target)) ↔
      decoyFor source = none ∨ decoyFor source = some decoy := by
  cases hs : decoyFor source with
  | none =>
    have ht : decoyFor target = some decoy := by
      rcases hm with rfl | rfl
      · cases hs.symm.trans hp
      · exact hp
    apply iff_of_true _ (.inl rfl)
    rw [step, rename, hs, ht]
    exact ⟨rfl, rfl, rfl, rfl⟩
  | some decoy' =>
    rw [step, rename, hs, Option.some_or, guarded_decoy]
    apply Iff.intro
    · intro h
      have hevent := List.singleton_inj.1 h.recorded
      have hpath : decoy'.path = decoy.path := congrArg HoneypotEvent.path hevent
      exact .inr (congrArg some (decoy_eq_of_path hs hp hpath))
    · rintro (hnone | hsame)
      · cases hnone
      · obtain rfl := Option.some.inj hsame
        exact ⟨rfl, rfl, rfl, rfl⟩

/-- A mutation of a decoy is denied, on any root file system, exactly by the calls that look
for the decoy. -/
theorem decoy_mutation_denied_iff (fileSystem : RootFileSystem ρ ω φ)
    (fs : HoneypotFileSystem ρ) (call : FsCall φ) (path : Path) (decoy : Decoy)
    (hp : decoyFor path = some decoy) (hm : call.Mutates path) :
    MutationDenied decoy fs (step fileSystem fs call) ↔ call.Guards decoy := by
  cases call with
  | createDir p | mount name p mounted =>
    apply iff_of_false _ id
    intro h
    cases h.recorded
  | removeDir p | removeFile p =>
    obtain rfl : p = path := hm
    apply iff_of_true _ trivial
    simp only [step, removeDir, removeFile, hp, guarded_decoy]
    exact ⟨rfl, rfl, rfl, rfl⟩
  | rename source target => exact rename_denied_iff hp hm
  | openFile p conf =>
    obtain ⟨rfl, hconf⟩ := hm
    apply iff_of_true _ trivial
    simp only [step, openFile_denied hp hconf]
    exact ⟨rfl, rfl, rfl, rfl⟩
  | readlink p | readDir p | metadata p | symlinkMetadata p => exact hm.elim

def directoryTree : RootFileSystem (List Path) Unit Unit where
  readlink := fun _ _ => .error (.other "invalid input")
  readDir := fun dirs _ => .ok dirs
  metadata := fun dirs path => if path ∈ dirs then .ok ⟨0⟩ else .error (.other "entity not found")
  createDir := fun dirs path =>
    if path ∈ dirs then (.error (.other "fd exists"), dirs) else (.ok (), dirs ++ [path])
  removeDir := fun dirs path =>
    if path ∈ dirs then (.ok (), dirs.erase path) else (.error (.other "entity not found"), dirs)
  rename := fun dirs source target =>
    if source ∈ dirs then (.ok (), dirs.erase source ++ [target])
    else (.error (.other "entity not found"), dirs)
  removeFile := fun dirs _ => (.error (.other "not a file"), dirs)
  openFile := fun dirs _ _ => (.error (.other "entity not found"), dirs)
  mount := fun dirs _ path _ => (.ok (), dirs ++ [path])

def passwdDecoy : Decoy := ⟨"/etc/passwd", fakePasswd⟩

def passwdAlias : Path := ⟨Utf8.bytes "etc/../etc/./passwd"⟩

theorem passwd_alias_removal_denied :
    MutationDenied passwdDecoy ⟨[], []⟩
      (step directoryTree ⟨[], []⟩ (.removeFile passwdAlias)) :=
  (decoy_mutation_denied_iff directoryTree ⟨[], []⟩ (.removeFile passwdAlias) passwdAlias
    passwdDecoy rfl rfl).2 trivial

theorem decoy_directory_planted :
    let path : Path := ⟨Utf8.bytes "/etc/passwd"⟩
    decoyFor path = some passwdDecoy ∧
      ∀ call ∈ [FsCall.createDir path, FsCall.mount "plant" path ()], call.Mutates path ∧
        ¬MutationDenied passwdDecoy ⟨[], []⟩ (step directoryTree ⟨[], []⟩ call) ∧
        (step directoryTree ⟨[], []⟩ call).2.root = [path] := by
  refine ⟨rfl, ?_⟩
  intro call hcall
  simp only [List.mem_cons, List.not_mem_nil, or_false] at hcall
  rcases hcall with rfl | rfl
  · refine ⟨rfl, ?_, rfl⟩
    intro h
    cases h.recorded
  · refine ⟨rfl, ?_, rfl⟩
    intro h
    cases h.recorded

end WasmerSectest
