import WasmerSectest.DecoyPaths
import WasmerSectest.Lib.Segments

namespace WasmerSectest
set_option autoImplicit true

/-- No piece of a Unix path names something by nothing, by `.` or by `..`. -/
def unixMarks : Segments.Marks (List UInt8) where
  empty := []
  here := [0x2e]
  above := [0x2e, 0x2e]
  above_ne_empty := by decide
  above_ne_here := by decide

/-- The names on the way from the root to where a path leads. -/
def Path.resolved (path : Path) : List (List UInt8) :=
  unixMarks.resolve (path.bytes.splitOn 0x2f)

def Decoy.segments (decoy : Decoy) : List (List UInt8) :=
  ((Utf8.bytes decoy.path).splitOn 0x2f).filter (· ≠ [])

def decoys : List Decoy :=
  [passwdDecoy, ⟨"/etc/shadow", fakeShadow⟩, ⟨"/root/.ssh/id_rsa", fakePrivateKey⟩,
    ⟨"/home/app/.ssh/id_rsa", fakePrivateKey⟩, ⟨"/home/user/.ssh/id_rsa", fakePrivateKey⟩]

/-- A longer spelling of a path. -/
inductive Path.Alias : Path → Path → Prop
  | slashAtStart (h : Segments.Start 0x2f before) (after : List UInt8) :
    Alias ⟨before ++ after⟩ ⟨before ++ 0x2f :: after⟩
  | slashAtEnd (before : List UInt8) (h : Segments.End 0x2f after) :
    Alias ⟨before ++ after⟩ ⟨before ++ 0x2f :: after⟩
  | here (h : Segments.Start 0x2f before) (after : List UInt8) :
    Alias ⟨before ++ after⟩ ⟨before ++ [0x2e, 0x2f] ++ after⟩
  | detour (h : Segments.Start 0x2f before) (hname : unixMarks.Ordinary name)
      (hslash : 0x2f ∉ name) (after : List UInt8) :
    Alias ⟨before ++ after⟩ ⟨before ++ name ++ [0x2f, 0x2e, 0x2e, 0x2f] ++ after⟩

/-- What the lookup of a path promises, however the path is spelled. -/
structure SeesThrough (path : Path) : Prop where
  found : ∀ decoy, decoyFor path = some decoy ↔
    decoy ∈ decoys ∧ path.resolved = decoy.segments
  spelling : ∀ path', Relation.EqvGen Path.Alias path path' → decoyFor path' = decoyFor path
  idempotent : normalizedPath ⟨Utf8.bytes (normalizedPath path)⟩ = normalizedPath path
  canonical : ∃ parts : List String, normalizedPath path = "/" ++ "/".intercalate parts ∧
    ∀ part ∈ parts, part ≠ "" ∧ part ≠ "." ∧ part ≠ ".." ∧ '/' ∉ part.toList

theorem Component.ofPiece_apply (first : Bool) (stack : List (List UInt8)) (piece : List UInt8) :
    (Component.ofPiece first piece).toList.foldl Component.apply
        (stack.map Utf8.fromUtf8Lossy) =
      (unixMarks.step stack piece).map Utf8.fromUtf8Lossy := by
  obtain ⟨rfl | rfl, heq⟩ | ⟨rfl, heq⟩ | ⟨hpiece, heq⟩ :=
    Segments.Marks.step_cases (m := unixMarks) stack piece
  · rw [heq]
    rfl
  · rw [heq]
    cases first with
    | true => rfl
    | false => rfl
  · rw [heq, List.map_dropLast]
    rfl
  · have hempty : piece ≠ [] := hpiece.ne_empty
    have hhere : piece ≠ [0x2e] := hpiece.ne_here
    have habove : piece ≠ [0x2e, 0x2e] := hpiece.ne_above
    rw [heq, List.map_append, ofPiece, if_neg hempty, if_neg hhere, if_neg habove]
    rfl

theorem Component.ofPieces_apply (stack : List (List UInt8)) (pieces : List (List UInt8)) :
    (pieces.filterMap (Component.ofPiece false)).foldl Component.apply
        (stack.map Utf8.fromUtf8Lossy) =
      (unixMarks.follow stack pieces).map Utf8.fromUtf8Lossy := by
  induction pieces generalizing stack with
  | nil => rfl
  | cons piece pieces ih =>
    rw [Segments.Marks.follow_cons, ← ih, ← ofPiece_apply false]
    cases hpiece : Component.ofPiece false piece with
    | none =>
      rw [List.filterMap_cons_none hpiece]
      rfl
    | some component =>
      rw [List.filterMap_cons_some hpiece]
      rfl

/-- The parts that the components of a path leave are the names it resolves to, as text. -/
theorem Path.components_apply (path : Path) :
    path.components.foldl Component.apply [] = path.resolved.map Utf8.fromUtf8Lossy := by
  obtain ⟨piece, pieces, hsplit⟩ :=
    List.exists_cons_of_ne_nil (List.splitOn_ne_nil 0x2f path.bytes)
  have hroot : (if path.bytes.head? = some 0x2f then [Component.rootDir] else []).foldl
      Component.apply [] = List.map Utf8.fromUtf8Lossy [] := by
    split
    · rfl
    · rfl
  rw [components, resolved, hsplit, List.foldl_append, List.foldl_append, hroot,
    Component.ofPiece_apply, Component.ofPieces_apply]
  rfl

theorem normalizedPath_eq (path : Path) :
    normalizedPath path = "/" ++ "/".intercalate (path.resolved.map Utf8.fromUtf8Lossy) := by
  rw [normalizedPath, path.components_apply]
  split
  · next h =>
    rw [h]
    rfl
  · rfl

theorem Path.resolved_ordinary (path : Path) :
    ∀ name ∈ path.resolved, unixMarks.Ordinary name :=
  Segments.Marks.resolve_all_ordinary _

theorem Path.resolved_no_slash (path : Path) : ∀ name ∈ path.resolved, 0x2f ∉ name := by
  intro name hname
  rcases Segments.Marks.mem_follow hname with h | h
  · cases h
  · exact Segments.not_mem_of_mem_splitOn h

theorem lossy_ordinary (h : unixMarks.Ordinary name) :
    unixMarks.Ordinary (Utf8.bytes (Utf8.fromUtf8Lossy name)) := by
  have hsame (text : String) (htext : '\uFFFD' ∉ text.toList)
      (heq : Utf8.bytes (Utf8.fromUtf8Lossy name) = Utf8.bytes text) :
      name = Utf8.bytes text := by
    rw [← heq, Utf8.bytes_fromUtf8Lossy]
    rwa [Utf8.bytes_injective heq]
  constructor
  · intro heq
    exact h.ne_empty (hsame "" (by decide) heq)
  · intro heq
    exact h.ne_here (hsame "." (by decide) heq)
  · intro heq
    exact h.ne_above (hsame ".." (by decide) heq)

theorem lossy_no_slash (h : 0x2f ∉ name) :
    0x2f ∉ Utf8.bytes (Utf8.fromUtf8Lossy name) := by
  have hencode : String.utf8EncodeChar '/' = [0x2f] := by decide
  intro hmem
  rw [Utf8.mem_bytes_iff hencode, Utf8.fromUtf8Lossy, String.toList_ofList] at hmem
  rcases Utf8.mem_lossyChars hmem with hc | hin
  · cases hc
  · rw [hencode] at hin
    exact h (hin.subset (List.mem_singleton_self _))

def Path.texts (path : Path) : List (List UInt8) :=
  path.resolved.map fun name => Utf8.bytes (Utf8.fromUtf8Lossy name)

theorem Path.texts_ordinary (path : Path) : ∀ text ∈ path.texts, unixMarks.Ordinary text := by
  rw [texts, List.forall_mem_map]
  intro name hname
  exact lossy_ordinary (path.resolved_ordinary name hname)

theorem Path.texts_no_slash (path : Path) : ∀ text ∈ path.texts, 0x2f ∉ text := by
  rw [texts, List.forall_mem_map]
  intro name hname
  exact lossy_no_slash (path.resolved_no_slash name hname)

theorem bytes_normalizedPath (path : Path) :
    Utf8.bytes (normalizedPath path) = 0x2f :: [0x2f].intercalate path.texts := by
  rw [normalizedPath_eq, Utf8.bytes_append, Utf8.bytes_intercalate, List.map_map]
  rfl

theorem splitOn_normalizedPath (path : Path) :
    (Utf8.bytes (normalizedPath path)).splitOn 0x2f =
      [] :: if path.texts = [] then [[]] else path.texts := by
  rw [bytes_normalizedPath, ← List.nil_append (0x2f :: _), List.splitOn_append_cons_self,
    List.splitOn_nil, List.singleton_append]
  split
  · next h =>
    rw [h]
    rfl
  · next h => rw [List.splitOn_intercalate _ path.texts_no_slash h]

theorem resolved_normalizedPath (path : Path) :
    (⟨Utf8.bytes (normalizedPath path)⟩ : Path).resolved = path.texts := by
  have hempty (pieces : List (List UInt8)) :
      unixMarks.resolve ([] :: pieces) = unixMarks.resolve pieces :=
    Segments.Marks.resolve_insert (.inl rfl) [] pieces
  rw [Path.resolved, splitOn_normalizedPath, hempty]
  split
  · next h =>
    rw [h]
    rfl
  · exact Segments.Marks.follow_ordinary path.texts_ordinary

theorem normalizedPath_idempotent (path : Path) :
    normalizedPath ⟨Utf8.bytes (normalizedPath path)⟩ = normalizedPath path := by
  have htexts : path.texts.map Utf8.fromUtf8Lossy = path.resolved.map Utf8.fromUtf8Lossy := by
    rw [Path.texts, List.map_map]
    apply List.map_congr_left
    intro name _
    exact Utf8.fromUtf8Lossy_bytes _
  rw [normalizedPath_eq, resolved_normalizedPath, htexts, ← normalizedPath_eq]

theorem normalizedPath_canonical (path : Path) :
    ∃ parts : List String, normalizedPath path = "/" ++ "/".intercalate parts ∧
      ∀ part ∈ parts, part ≠ "" ∧ part ≠ "." ∧ part ≠ ".." ∧ '/' ∉ part.toList := by
  refine ⟨path.resolved.map Utf8.fromUtf8Lossy, normalizedPath_eq path, ?_⟩
  rw [List.forall_mem_map]
  intro name hname
  have hordinary := lossy_ordinary (path.resolved_ordinary name hname)
  have hslash := lossy_no_slash (path.resolved_no_slash name hname)
  refine ⟨?_, ?_, ?_, ?_⟩
  · intro heq
    exact hordinary.ne_empty (heq ▸ rfl)
  · intro heq
    exact hordinary.ne_here (heq ▸ rfl)
  · intro heq
    exact hordinary.ne_above (heq ▸ rfl)
  · rwa [← Utf8.mem_bytes_iff (b := 0x2f) (by decide)]

theorem segments_normalizedPath {decoy : Decoy} (h : normalizedPath path = decoy.path) :
    decoy.segments = path.texts := by
  have hfilter : path.texts.filter (· ≠ []) = path.texts := by
    rw [List.filter_eq_self]
    intro text htext
    exact decide_eq_true (path.texts_ordinary text htext).ne_empty
  rw [Decoy.segments, ← h, splitOn_normalizedPath, List.filter_cons_of_neg (by decide)]
  split
  · next hnil =>
    rw [hnil]
    rfl
  · exact hfilter

theorem decoys_segments : decoys.all (fun decoy =>
    "/" ++ "/".intercalate (decoy.segments.map Utf8.fromUtf8Lossy) == decoy.path &&
      decoy.segments.all fun text => '\uFFFD' ∉ (Utf8.fromUtf8Lossy text).toList) = true := by
  decide

theorem decoy_segments_path (h : decoy ∈ decoys) :
    "/" ++ "/".intercalate (decoy.segments.map Utf8.fromUtf8Lossy) = decoy.path := by
  have hall := List.all_eq_true.1 decoys_segments decoy h
  rw [Bool.and_eq_true] at hall
  exact beq_iff_eq.1 hall.1

theorem decoy_segments_text (h : decoy ∈ decoys) (htext : text ∈ decoy.segments) :
    '\uFFFD' ∉ (Utf8.fromUtf8Lossy text).toList := by
  have hall := List.all_eq_true.1 decoys_segments decoy h
  rw [Bool.and_eq_true] at hall
  exact of_decide_eq_true (List.all_eq_true.1 hall.2 text htext)

/-- A path is spelled as a decoy's exactly when it leads to the same place. -/
theorem normalizedPath_eq_decoy (path : Path) (h : decoy ∈ decoys) :
    normalizedPath path = decoy.path ↔ path.resolved = decoy.segments := by
  apply Iff.intro
  · intro hpath
    have hsegments := segments_normalizedPath hpath
    have hsame : path.texts = path.resolved := by
      apply Eq.trans _ (List.map_id path.resolved)
      apply List.map_congr_left
      intro name hname
      apply Utf8.bytes_fromUtf8Lossy
      have htext : Utf8.bytes (Utf8.fromUtf8Lossy name) ∈ decoy.segments := by
        rw [hsegments]
        exact List.mem_map_of_mem hname
      have hclean := decoy_segments_text h htext
      rwa [Utf8.fromUtf8Lossy_bytes] at hclean
    rw [hsegments, hsame]
  · intro hresolved
    rw [normalizedPath_eq, hresolved, decoy_segments_path h]

theorem decoyFor_iff : decoyFor path = some decoy ↔
    decoy ∈ decoys ∧ normalizedPath path = decoy.path := by
  apply Iff.intro
  · intro h
    refine ⟨?_, (decoyFor_path h).symm⟩
    rw [decoyFor] at h
    split at h
    case h_6 => cases h
    all_goals
      obtain rfl := Option.some.inj h
      decide
  · intro h
    obtain ⟨hmem, hpath⟩ := h
    rw [decoyFor, hpath]
    simp only [decoys, List.mem_cons, List.not_mem_nil, or_false] at hmem
    rcases hmem with rfl | rfl | rfl | rfl | rfl
    all_goals rfl

theorem Path.Alias.resolved_eq (h : Path.Alias path path') : path'.resolved = path.resolved := by
  cases h with
  | slashAtStart hstart after =>
    obtain ⟨pieces, hsplit⟩ := hstart.splitOn
    rw [Path.resolved, Path.resolved, hsplit, hsplit, ← List.nil_append (0x2f :: after),
      List.splitOn_append_cons_self, List.splitOn_nil, List.singleton_append]
    exact Segments.Marks.resolve_insert (.inl rfl) pieces _
  | slashAtEnd before hend =>
    obtain ⟨pieces, hsplit, hlonger⟩ := hend.splitOn before
    rw [Path.resolved, Path.resolved, hsplit, hlonger]
    exact Segments.Marks.resolve_insert (.inl rfl) _ pieces
  | here hstart after =>
    obtain ⟨pieces, hsplit⟩ := hstart.splitOn
    have hdot : (0x2f : UInt8) ∉ [0x2e] := by decide
    have hlonger : ([0x2e, 0x2f] ++ after).splitOn (0x2f : UInt8) =
        [0x2e] :: after.splitOn 0x2f :=
      List.splitOn_append_cons_self_of_not_mem hdot after
    rw [Path.resolved, Path.resolved, List.append_assoc, hsplit, hsplit, hlonger]
    exact Segments.Marks.resolve_insert (.inr rfl) pieces _
  | @detour _ name hstart hname hslash after =>
    obtain ⟨pieces, hsplit⟩ := hstart.splitOn
    have hdots : (0x2f : UInt8) ∉ [0x2e, 0x2e] := by decide
    have hback : ([0x2e, 0x2e, 0x2f] ++ after).splitOn (0x2f : UInt8) =
        [0x2e, 0x2e] :: after.splitOn 0x2f :=
      List.splitOn_append_cons_self_of_not_mem hdots after
    have hlonger : (name ++ ([0x2f, 0x2e, 0x2e, 0x2f] ++ after)).splitOn (0x2f : UInt8) =
        name :: [0x2e, 0x2e] :: after.splitOn 0x2f := by
      rw [← hback]
      exact List.splitOn_append_cons_self_of_not_mem hslash _
    rw [Path.resolved, Path.resolved, List.append_assoc, List.append_assoc, hsplit, hsplit,
      hlonger]
    exact Segments.Marks.resolve_detour hname pieces _

theorem path_aliases (path : Path) : SeesThrough path where
  found decoy := by
    rw [decoyFor_iff]
    apply and_congr_right
    exact normalizedPath_eq_decoy path
  spelling path' h := by
    have hresolved : path'.resolved = path.resolved := by
      induction h with
      | rel path path' h => exact h.resolved_eq
      | refl path => rfl
      | symm path path' _ ih => exact ih.symm
      | trans path path' path'' _ _ ih ih' => exact ih'.trans ih
    rw [decoyFor, decoyFor, normalizedPath_eq, normalizedPath_eq, hresolved]
  idempotent := normalizedPath_idempotent path
  canonical := normalizedPath_canonical path

end WasmerSectest
