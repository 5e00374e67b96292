import WasmerSectest.Corpus

namespace WasmerSectest
set_option autoImplicit true

def forwardSlash (c : Char) : Char := if c = '\\' then '/' else c

theorem forwardSlashes_toList (text : String) :
    (forwardSlashes text).toList = text.toList.map forwardSlash := String.toList_ofList

theorem normalize_toList (path : String) :
    (normalizeManifestPath path).toList = (trimDotSlash path.toList).map forwardSlash := by
  rw [normalizeManifestPath, forwardSlashes_toList, String.toList_ofList]

theorem forwardSlash_of_ne (h : c ≠ '\\') : forwardSlash c = c := if_neg h

theorem forwardSlash_ne (c : Char) : forwardSlash c ≠ '\\' := by
  rw [forwardSlash]
  split
  · decide
  · exact ‹_›

theorem forwardSlash_eq_dot (h : forwardSlash c = '.') : c = '.' := by
  rw [forwardSlash] at h
  split at h
  · cases h
  · exact h

theorem forwardSlash_eq_slash (h : forwardSlash c = '/') : c = '\\' ∨ c = '/' := by
  rw [forwardSlash] at h
  split at h
  · exact .inl ‹_›
  · exact .inr h

theorem map_forwardSlash {path : List Char} (h : '\\' ∉ path) : path.map forwardSlash = path := by
  conv_rhs => rw [← List.map_id path]
  exact List.map_congr_left fun c hc => forwardSlash_of_ne fun he => h (he ▸ hc)

theorem not_mem_map_forwardSlash (path : List Char) : '\\' ∉ path.map forwardSlash := by
  intro h
  obtain ⟨c, -, hc⟩ := List.mem_map.1 h
  exact forwardSlash_ne c hc

theorem trimDotSlash_suffix (path : List Char) : trimDotSlash path <:+ path := by
  induction path using trimDotSlash.induct with
  | case1 rest ih => exact ih.trans (List.suffix_append ['.', '/'] rest)
  | case2 path h =>
    rw [trimDotSlash]
    exact h

theorem trimDotSlash_ne (path rest : List Char) : trimDotSlash path ≠ '.' :: '/' :: rest := by
  induction path using trimDotSlash.induct with
  | case1 rest' ih => exact ih
  | case2 path h =>
    rw [trimDotSlash]
    · exact h rest
    · exact h

theorem trimDotSlash_eq_self {path : List Char} (h : ∀ rest, path ≠ '.' :: '/' :: rest) :
    trimDotSlash path = path := by
  rw [trimDotSlash]
  exact h

inductive Slash where
  | forward
  | back

def Slash.char : Slash → Char
  | .forward => '/'
  | .back => '\\'

/-- A path behind current-directory prefixes, each with its own kind of slash. -/
def behind : List Slash → List Char → List Char
  | [], path => path
  | slash :: slashes, path => '.' :: slash.char :: behind slashes path

/-- Among the current-directory prefixes of a path there is one with a backslash. -/
inductive BackslashedDot : List Char → Prop
  | here (rest : List Char) : BackslashedDot ('.' :: '\\' :: rest)
  | later : BackslashedDot path → BackslashedDot ('.' :: '/' :: path)

theorem BackslashedDot.behind (h : BackslashedDot path) (slashes : List Slash) :
    BackslashedDot (behind slashes path) := by
  induction slashes with
  | nil => exact h
  | cons slash slashes ih =>
    cases slash with
    | forward => exact .later ih
    | back => exact .here _

theorem BackslashedDot.trim (h : BackslashedDot path) :
    ∃ rest, trimDotSlash path = '.' :: '\\' :: rest := by
  induction h with
  | here rest =>
    refine ⟨rest, trimDotSlash_eq_self ?_⟩
    intro rest' he
    cases he
  | later _ ih => exact ih

theorem trim_map_behind (slashes : List Slash) (path : List Char) :
    trimDotSlash ((behind slashes path).map forwardSlash) =
      trimDotSlash (path.map forwardSlash) := by
  induction slashes with
  | nil => rfl
  | cons slash slashes ih =>
    cases slash with
    | forward => exact ih
    | back => exact ih

/-- Without a backslash among the prefixes the two rewrites commute. -/
theorem trim_map_of_not_backslashed (h : ¬BackslashedDot path) :
    trimDotSlash (path.map forwardSlash) = (trimDotSlash path).map forwardSlash := by
  induction path using trimDotSlash.induct with
  | case1 rest ih =>
    apply ih
    intro hrest
    exact h (.later hrest)
  | case2 path hpath =>
    rw [trimDotSlash_eq_self hpath]
    apply trimDotSlash_eq_self
    intro rest he
    obtain ⟨dot, tail, rfl, hdot, htail⟩ := List.map_eq_cons_iff.1 he
    obtain ⟨slash, rest', rfl, hslash, -⟩ := List.map_eq_cons_iff.1 htail
    obtain rfl := forwardSlash_eq_dot hdot
    rcases forwardSlash_eq_slash hslash with rfl | rfl
    · exact h (.here rest')
    · exact hpath rest' rfl

/-- What a spelling of a relative path stands for: forward slashes, and no prefix. -/
def canonicalPath (path : String) : String :=
  String.ofList (trimDotSlash (forwardSlashes path).toList)

theorem canonicalPath_toList (path : String) :
    (canonicalPath path).toList = trimDotSlash (path.toList.map forwardSlash) := by
  rw [canonicalPath, String.toList_ofList, forwardSlashes_toList]

theorem normalize_eq_canonical {path : String} (h : ¬BackslashedDot path.toList) :
    normalizeManifestPath path = canonicalPath path := by
  rw [← String.toList_inj, normalize_toList, canonicalPath_toList,
    trim_map_of_not_backslashed h]

theorem normalize_ne_canonical {path : String} (h : BackslashedDot path.toList) (path' : String) :
    normalizeManifestPath path ≠ canonicalPath path' := by
  intro he
  obtain ⟨rest, hrest⟩ := h.trim
  rw [← String.toList_inj, normalize_toList, canonicalPath_toList, hrest] at he
  exact trimDotSlash_ne _ _ he.symm

theorem normalize_canonical (path : String) :
    normalizeManifestPath (canonicalPath path) = canonicalPath path := by
  have hslash : '\\' ∉ trimDotSlash (path.toList.map forwardSlash) := fun hm =>
    not_mem_map_forwardSlash _ ((trimDotSlash_suffix _).subset hm)
  rw [← String.toList_inj, normalize_toList, canonicalPath_toList,
    trimDotSlash_eq_self (trimDotSlash_ne _), map_forwardSlash hslash]

theorem canonical_forwardSlashes (path : String) :
    canonicalPath (forwardSlashes path) = canonicalPath path := by
  rw [← String.toList_inj, canonicalPath_toList, canonicalPath_toList, forwardSlashes_toList,
    map_forwardSlash (not_mem_map_forwardSlash _)]

theorem not_backslashed_forwardSlashes (path : String) :
    ¬BackslashedDot (forwardSlashes path).toList := by
  intro h
  obtain ⟨rest, hrest⟩ := h.trim
  have hm : '\\' ∈ trimDotSlash (forwardSlashes path).toList := by simp [hrest]
  rw [forwardSlashes_toList] at hm
  exact not_mem_map_forwardSlash _ ((trimDotSlash_suffix _).subset hm)

theorem normalize_forwardSlashes (path : String) :
    normalizeManifestPath (forwardSlashes path) = canonicalPath path := by
  rw [normalize_eq_canonical (not_backslashed_forwardSlashes path), canonical_forwardSlashes]

theorem indexByFile_ok_nodup {byFile cases table : List CaseMetadata}
    (h : indexByFile byFile cases = .ok table) :
    table = byFile ++ cases ∧ (byFile.Pairwise (·.file ≠ ·.file) →
      table.Pairwise (·.file ≠ ·.file)) := by
  induction cases generalizing byFile with
  | nil =>
    rw [indexByFile, Except.ok.injEq] at h
    subst h
    exact ⟨(List.append_nil _).symm, id⟩
  | cons case cases ih =>
    rw [indexByFile] at h
    split at h
    · cases h
    · split at h
      · cases h
      case isFalse hany =>
        obtain ⟨htable, hnodup⟩ := ih h
        refine ⟨by rw [htable, List.append_assoc, List.singleton_append], ?_⟩
        intro hp
        apply hnodup
        rw [List.pairwise_append]
        refine ⟨hp, List.pairwise_singleton _ _, ?_⟩
        intro known hknown case' hcase he
        rw [List.mem_singleton] at hcase
        subst hcase
        exact hany (List.any_eq_true.2 ⟨known, hknown, beq_iff_eq.2 he⟩)

theorem duplicate_rejected {case case' : CaseMetadata} (h : case'.file = case.file)
    (before between after : List CaseMetadata) :
    ∃ err, indexByFile [] (before ++ case :: (between ++ case' :: after)) = .error err := by
  cases hindex : indexByFile [] (before ++ case :: (between ++ case' :: after)) with
  | error err => exact ⟨err, rfl⟩
  | ok table =>
    obtain ⟨htable, hnodup⟩ := indexByFile_ok_nodup hindex
    have htable_nodup := hnodup List.Pairwise.nil
    rw [htable, List.nil_append] at htable_nodup
    have hpairs := (List.pairwise_append.1 htable_nodup).2.1
    have hcase := (List.pairwise_cons.1 hpairs).1 case'
      (List.mem_append_right _ List.mem_cons_self)
    exact absurd h.symm hcase

/-- Ways to write a path: with either separator, and bare or behind the prefixes. -/
def spellings (slashes : List Slash) (path : String) : List String :=
  [path, forwardSlashes path, String.ofList (behind slashes path.toList),
    String.ofList (behind slashes (forwardSlashes path).toList)]

/-- The spellings of a path are one path of the manifest. -/
structure NormalizedConsistently (slashes : List Slash) (path : String) : Prop where
  idempotent : normalizeManifestPath (normalizeManifestPath path) = normalizeManifestPath path
  separators : normalizeManifestPath path = normalizeManifestPath (forwardSlashes path)
  prefixed :
    normalizeManifestPath (String.ofList (behind slashes path.toList)) = normalizeManifestPath path
  matched : ∀ names, relativeKey names = canonicalPath path →
    ∀ spelling ∈ spellings slashes path, normalizeManifestPath spelling = relativeKey names
  duplicate : ∀ spelling ∈ spellings slashes path, ∀ spelling' ∈ spellings slashes path,
    ∀ (case case' : CaseMetadata) (before between after : List CaseMetadata),
    ∃ err, indexByFile [] (before ++
      { case with file := normalizeManifestPath spelling } :: (between ++
      { case' with file := normalizeManifestPath spelling' } :: after)) = .error err

theorem backslashedDot_of_forwardSlashes {path : String}
    (h : BackslashedDot (behind slashes (forwardSlashes path).toList)) :
    BackslashedDot (behind slashes path.toList) := by
  induction slashes with
  | nil => exact absurd h (not_backslashed_forwardSlashes path)
  | cons slash slashes ih =>
    cases slash with
    | forward =>
      cases h with
      | later h => exact .later (ih h)
    | back => exact .here _

theorem canonical_behind (slashes : List Slash) (path : String) :
    canonicalPath (String.ofList (behind slashes path.toList)) = canonicalPath path := by
  rw [← String.toList_inj, canonicalPath_toList, canonicalPath_toList, String.toList_ofList,
    trim_map_behind]

theorem normalize_behind {path : String} (h : ¬BackslashedDot (behind slashes path.toList)) :
    normalizeManifestPath (String.ofList (behind slashes path.toList)) = canonicalPath path := by
  rw [← canonical_behind slashes path]
  apply normalize_eq_canonical
  rwa [String.toList_ofList]

theorem normalize_spelling {path : String} (h : ¬BackslashedDot (behind slashes path.toList)) :
    ∀ spelling ∈ spellings slashes path,
      normalizeManifestPath spelling = canonicalPath path := by
  have hforward : ¬BackslashedDot (behind slashes (forwardSlashes path).toList) :=
    fun hback => h (backslashedDot_of_forwardSlashes hback)
  rw [spellings, List.forall_mem_cons, List.forall_mem_cons, List.forall_mem_cons,
    List.forall_mem_singleton]
  refine ⟨?_, normalize_forwardSlashes path, normalize_behind h, ?_⟩
  · exact normalize_eq_canonical fun hback => h (hback.behind slashes)
  · rw [normalize_behind hforward, canonical_forwardSlashes]

/-- The spellings agree exactly if no current-directory prefix is written with a backslash. -/
theorem normalized_consistently_iff (slashes : List Slash) (path : String) :
    NormalizedConsistently slashes path ↔ ¬BackslashedDot (behind slashes path.toList) := by
  apply Iff.intro
  · intro h hback
    rw [← @String.toList_ofList (behind slashes path.toList)] at hback
    apply normalize_ne_canonical hback path
    rw [h.prefixed, h.separators, normalize_forwardSlashes]
  · intro h
    have hspelling := normalize_spelling h
    have hpath := hspelling path List.mem_cons_self
    exact {
      idempotent := by rw [hpath, normalize_canonical]
      separators := by rw [hpath, normalize_forwardSlashes]
      prefixed := by rw [hpath, normalize_behind h]
      matched := by
        intro names hnames spelling hmem
        rw [hspelling spelling hmem, hnames]
      duplicate := by
        intro spelling hmem spelling' hmem' case case' before between after
        apply duplicate_rejected
        exact (hspelling spelling' hmem').trans (hspelling spelling hmem).symm }

theorem backslashed_prefix_not_trimmed :
    normalizeManifestPath ".\\a.wat" = "./a.wat" ∧
      normalizeManifestPath "./a.wat" = "a.wat" ∧
      ¬NormalizedConsistently [] ".\\a.wat" := by
  refine ⟨by decide, by decide, ?_⟩
  intro h
  have hidempotent := h.idempotent
  revert hidempotent
  decide

end WasmerSectest
