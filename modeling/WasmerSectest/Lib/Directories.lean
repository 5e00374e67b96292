import WasmerSectest.Lib.Segments

namespace Directories
set_option autoImplicit true

/-- What is where, each place told by the names on the way to it from the root. No name is a link
to somewhere else. -/
structure Tree (α β : Type*) where
  isDir : List α → Bool
  files : List α → Option β

inductive Trouble where
  | missing
  | occupied
  | notDirectory
  | isDirectory
  deriving DecidableEq

namespace Tree

variable {α β : Type*} [DecidableEq α] (m : Segments.Marks α)

def makeDir (tree : Tree α β) (place : List α) : Tree α β :=
  { tree with isDir := Function.update tree.isDir place true }

/-- The directories on the way are made where there are none. -/
def makeDirs (tree : Tree α β) (place : List α) : List α → Except Trouble (Tree α β)
  | [] => .ok tree
  | piece :: pieces =>
    let next := m.step place piece
    if tree.isDir next then tree.makeDirs next pieces
    else if (tree.files next).isSome then
      .error (if pieces.isEmpty then .occupied else .notDirectory)
    else (tree.makeDir next).makeDirs next pieces

/-- The place the pieces lead to, by way of directories. -/
def walk (tree : Tree α β) (place : List α) : List α → Except Trouble (List α)
  | [] => .ok place
  | piece :: pieces =>
    let next := m.step place piece
    if tree.isDir next then tree.walk next pieces
    else .error (if (tree.files next).isSome then .notDirectory else .missing)

/-- The place of the file that the pieces name, which need not be there yet. -/
def locate (tree : Tree α β) (place pieces : List α) : Except Trouble (List α) :=
  match tree.walk m place pieces.dropLast with
  | .error trouble => .error trouble
  | .ok folder =>
    match pieces.getLast? with
    | none => .error .missing
    | some piece =>
      if piece = m.empty ∨ piece = m.here ∨ piece = m.above ∨ tree.isDir (folder ++ [piece]) then
        .error .isDirectory
      else .ok (folder ++ [piece])

def write (tree : Tree α β) (place : List α) (contents : β) : Tree α β :=
  { tree with files := Function.update tree.files place (some contents) }

variable {m} {tree : Tree α β}

theorem walk_cons_ok_iff :
    tree.walk m place (piece :: pieces) = .ok found ↔
      tree.isDir (m.step place piece) = true ∧
        tree.walk m (m.step place piece) pieces = .ok found := by
  rw [walk]
  cases hdir : tree.isDir (m.step place piece) with
  | false =>
    apply iff_of_false
    · intro h
      cases h
    · intro h
      cases h.1
  | true => exact (and_iff_right rfl).symm

theorem walk_follow (h : tree.walk m place pieces = .ok found) :
    found = m.follow place pieces := by
  induction pieces generalizing place with
  | nil => exact (Except.ok.inj h).symm
  | cons piece pieces ih => exact ih (walk_cons_ok_iff.1 h).2

theorem walk_of_isDir_eq {tree' : Tree α β} (hdir : tree'.isDir = tree.isDir)
    (h : tree.walk m place pieces = .ok found) : tree'.walk m place pieces = .ok found := by
  induction pieces generalizing place with
  | nil => exact h
  | cons piece pieces ih =>
    obtain ⟨hnext, hwalk⟩ := walk_cons_ok_iff.1 h
    apply walk_cons_ok_iff.2
    exact ⟨hdir ▸ hnext, ih hwalk⟩

theorem locate_cases (h : tree.locate m place pieces = .ok found) :
    ∃ folder piece, tree.walk m place pieces.dropLast = .ok folder ∧
      pieces.getLast? = some piece ∧ found = folder ++ [piece] := by
  rw [locate] at h
  split at h
  · cases h
  · next folder hwalk =>
    split at h
    · cases h
    · next piece hlast =>
      split at h
      · cases h
      · obtain rfl := Except.ok.inj h
        exact ⟨folder, piece, hwalk, hlast, rfl⟩

theorem locate_follow (h : tree.locate m place pieces = .ok found) :
    ∃ piece, pieces.getLast? = some piece ∧
      found = m.follow place pieces.dropLast ++ [piece] := by
  obtain ⟨folder, piece, hwalk, hlast, rfl⟩ := locate_cases h
  exact ⟨piece, hlast, walk_follow hwalk ▸ rfl⟩

theorem locate_of_isDir_eq {tree' : Tree α β} (hdir : tree'.isDir = tree.isDir)
    (h : tree.locate m place pieces = .ok found) : tree'.locate m place pieces = .ok found := by
  obtain ⟨folder, piece, hwalk, hlast, rfl⟩ := locate_cases h
  rw [locate, hwalk, hlast] at h
  rw [locate, walk_of_isDir_eq hdir hwalk, hlast, hdir]
  exact h

end Tree

end Directories
