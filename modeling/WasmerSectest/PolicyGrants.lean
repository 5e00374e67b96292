import WasmerSectest.QuotedStrings

namespace WasmerSectest.Policy
set_option autoImplicit true

open Quoted

/-- `parse`, with the way a comment is taken off a line left open. -/
def applyLineWith (strip : List Char → List Char) (policy : Policy) (lineNumber : Nat)
    (rawLine : List Char) : Except String Policy :=
  let line := Text.trim (strip rawLine)
  if line = [] then .ok policy
  else
    match Text.splitOnce '=' line with
    | none => .error s!"line {lineNumber}: expected key = value"
    | some (key, value) =>
      policy.applyKey lineNumber (String.ofList (Text.trim key)) (Text.trim value)

def applyLinesWith (strip : List Char → List Char) (policy : Policy) :
    Nat → List (List Char) → Except String Policy
  | _, [] => .ok policy
  | lineNumber, rawLine :: rawLines => do
    let policy ← applyLineWith strip policy lineNumber rawLine
    applyLinesWith strip policy (lineNumber + 1) rawLines

def parseWith (strip : List Char → List Char) (contents : String) : Except String Policy := do
  let policy ← applyLinesWith strip default 1 (Text.lines contents.toList)
  if policy.allowedPaths = [] then
    throw "allowed_paths must contain at least one exact capability"
  return policy

def cutAtHash (line : List Char) : List Char := line.takeWhile (· ≠ '#')

/-- A `#` within a quoted string is left alone. -/
def cutAtComment (line : List Char) : List Char := stripComment '\\' '"' '#' .outside line

/-- The parser that `parse` is compared with. -/
def referenceParse (contents : String) : Except String Policy := parseWith cutAtComment contents

theorem applyLine_eq (policy : Policy) (lineNumber : Nat) (rawLine : List Char) :
    policy.applyLine lineNumber rawLine = applyLineWith cutAtHash policy lineNumber rawLine := rfl

theorem applyLines_eq (policy : Policy) (lineNumber : Nat) (rawLines : List (List Char)) :
    policy.applyLines lineNumber rawLines = applyLinesWith cutAtHash policy lineNumber rawLines := by
  induction rawLines generalizing policy lineNumber with
  | nil => rfl
  | cons rawLine rawLines ih =>
    rw [applyLines, applyLinesWith, applyLine_eq]
    simp only [ih]

theorem parse_eq (contents : String) : parse contents = parseWith cutAtHash contents := by
  rw [parse, parseWith, applyLines_eq]

theorem digits_no_quote (h : Decimal.digits? cs = some n) : '"' ∉ cs := by
  rw [Decimal.digits?] at h
  split at h
  case isTrue hdigits =>
    intro hquote
    exact absurd (List.all_eq_true.1 hdigits.2 _ hquote) (by decide)
  case isFalse => cases h

theorem parseUnsigned_no_quote (h : Decimal.parseUnsigned size cs = some n) : '"' ∉ cs := by
  rw [Decimal.parseUnsigned.eq_def] at h
  split at h
  case h_1 rest =>
    obtain ⟨hdigits, -⟩ := Option.filter_eq_some_iff.1 h
    intro hquote
    rcases List.mem_cons.1 hquote with he | hquote
    · cases he
    · exact digits_no_quote hdigits hquote
  case h_2 =>
    obtain ⟨hdigits, -⟩ := Option.filter_eq_some_iff.1 h
    exact digits_no_quote hdigits

theorem parseU32_no_quote (h : parseU32 value lineNumber key = .ok n) : '"' ∉ value := by
  rw [parseU32] at h
  split at h
  case h_1 hparse => exact parseUnsigned_no_quote hparse
  case h_2 => cases h

theorem parseU64_no_quote (h : parseU64 value lineNumber key = .ok n) : '"' ∉ value := by
  rw [parseU64] at h
  split at h
  case h_1 hparse => exact parseUnsigned_no_quote hparse
  case h_2 => cases h

theorem parseBool_no_quote (h : parseBool value lineNumber key = .ok b) : '"' ∉ value := by
  rw [parseBool] at h
  split at h
  case isTrue hvalue =>
    rw [hvalue]
    decide
  case isFalse =>
    split at h
    case isTrue hvalue =>
      rw [hvalue]
      decide
    case isFalse => cases h

theorem applyKey_ok {policy policy' : Policy} {lineNumber : Nat} {key : String}
    {value : List Char} (h : policy.applyKey lineNumber key value = .ok policy') :
    '"' ∉ key.toList ∧
      (key ≠ "allowed_paths" ∧ '"' ∉ value ∧ policy'.allowedPaths = policy.allowedPaths ∨
        key = "allowed_paths" ∧ parseStringArray value lineNumber = .ok policy'.allowedPaths) := by
  rw [applyKey.eq_def] at h
  split at h
  case h_8 =>
    obtain ⟨paths, hread, he⟩ := Returns.bind_ok h
    cases he
    exact ⟨by decide, .inr ⟨rfl, hread⟩⟩
  case h_9 => cases h
  case h_6 =>
    obtain ⟨b, hread, he⟩ := Returns.bind_ok h
    cases he
    exact ⟨by decide, .inl ⟨by decide, parseBool_no_quote hread, rfl⟩⟩
  case h_7 =>
    obtain ⟨n, hread, he⟩ := Returns.bind_ok h
    cases he
    exact ⟨by decide, .inl ⟨by decide, parseU64_no_quote hread, rfl⟩⟩
  all_goals
    obtain ⟨n, hread, he⟩ := Returns.bind_ok h
    cases he
    exact ⟨by decide, .inl ⟨by decide, parseU32_no_quote hread, rfl⟩⟩

theorem scan_gap (h : Gap gap) : scan '\\' '"' .outside gap = .outside := by
  apply scan_outside
  intro hquote
  exact not_gap hquote h

theorem scan_blank (h : ∀ c ∈ blank, Text.isWhitespace c = true) :
    scan '\\' '"' .outside blank = .outside := by
  apply scan_outside
  intro hquote
  exact absurd (h _ hquote) (by decide)

theorem scan_quoted (h : QuotedText body out) (rest : List Char) :
    scan '\\' '"' .outside ('"' :: (body ++ '"' :: rest)) = scan '\\' '"' .outside rest := by
  have hbody : scan '\\' '"' .inside body = .inside := h.scan (by decide)
  change scan '\\' '"' .inside (body ++ '"' :: rest) = _
  rw [scan_append, hbody]
  rfl

/-- In an array that is accepted every string is closed. -/
theorem Entries.scan (h : Entries chars outs) : scan '\\' '"' .outside chars = .outside := by
  induction h with
  | nil hgap => exact scan_gap hgap
  | last hgap hbody hblank =>
    rw [scan_append, scan_gap hgap, scan_quoted hbody, scan_blank hblank]
  | cons hgap hbody hblank _ ih =>
    rw [scan_append, scan_gap hgap, scan_quoted hbody, scan_append, scan_blank hblank, ih]

theorem scan_of_trim (h : scan '\\' '"' .outside (Text.trim text) = .outside) :
    scan '\\' '"' .outside text = .outside := by
  obtain ⟨lead, trail, hlead, htrail, he⟩ := Text.exists_padding text
  rw [he, scan_append, scan_blank hlead, scan_append, h, scan_blank htrail]

theorem parseStringArray_scan {value : List Char} {lineNumber : Nat} {paths : List String}
    (h : parseStringArray value lineNumber = .ok paths) :
    scan '\\' '"' .outside value = .outside := by
  obtain ⟨inner, he, hentries⟩ := parseStringArray_ok_iff.1 h
  apply scan_of_trim
  rw [he]
  change scan '\\' '"' .outside (inner ++ [']']) = _
  rw [scan_append, hentries.scan]
  rfl

theorem applyKey_scan {policy policy' : Policy} {lineNumber : Nat} {key : String}
    {value : List Char} (h : policy.applyKey lineNumber key value = .ok policy') :
    scan '\\' '"' .outside value = .outside := by
  obtain ⟨-, ⟨-, hvalue, -⟩ | ⟨-, hread⟩⟩ := applyKey_ok h
  · exact scan_outside _ _ hvalue
  · exact parseStringArray_scan hread

/-- A line is accepted only if what is left of it closes every string. -/
theorem applyLineWith_scan {strip : List Char → List Char} {policy policy' : Policy}
    {lineNumber : Nat} {rawLine : List Char}
    (h : applyLineWith strip policy lineNumber rawLine = .ok policy') :
    scan '\\' '"' .outside (strip rawLine) = .outside := by
  apply scan_of_trim
  rw [applyLineWith] at h
  split at h
  case isTrue hempty =>
    rw [hempty]
    rfl
  case isFalse =>
    split at h
    case h_1 => cases h
    case h_2 key value hsplit =>
      have hkey : '"' ∉ key := by
        intro hquote
        apply (applyKey_ok h).1
        rw [String.toList_ofList]
        exact Text.mem_trim_of_mem hquote (by decide)
      rw [Text.splitOnce_eq_some hsplit, scan_append, scan_outside _ _ hkey]
      change scan '\\' '"' .outside value = .outside
      exact scan_of_trim (applyKey_scan h)

theorem cutAtComment_eq {policy policy' : Policy} {lineNumber : Nat} {rawLine : List Char}
    (h : applyLineWith cutAtHash policy lineNumber rawLine = .ok policy') :
    cutAtComment rawLine = cutAtHash rawLine := by
  rcases stripComment_or_open '\\' '"' '#' .outside rawLine with he | hopen
  · exact he
  · exact absurd (applyLineWith_scan h) hopen

theorem applyLineWith_reference {policy policy' : Policy} {lineNumber : Nat} {rawLine : List Char}
    (h : applyLineWith cutAtHash policy lineNumber rawLine = .ok policy') :
    applyLineWith cutAtComment policy lineNumber rawLine = .ok policy' := by
  have hcut := cutAtComment_eq h
  rwa [applyLineWith, hcut]

theorem applyLinesWith_reference {policy policy' : Policy} {lineNumber : Nat}
    {rawLines : List (List Char)}
    (h : applyLinesWith cutAtHash policy lineNumber rawLines = .ok policy') :
    applyLinesWith cutAtComment policy lineNumber rawLines = .ok policy' := by
  induction rawLines generalizing policy lineNumber with
  | nil => exact h
  | cons rawLine rawLines ih =>
    obtain ⟨next, hline, hrest⟩ := Returns.bind_ok h
    rw [applyLinesWith, applyLineWith_reference hline]
    exact ih hrest

/-- The value that a line gives to `allowed_paths`, where it does. -/
def pathsValue (rawLine : List Char) : Option (List Char) :=
  match Text.splitOnce '=' (Text.trim (cutAtComment rawLine)) with
  | none => none
  | some (key, value) =>
    if Text.trim key = "allowed_paths".toList then some (Text.trim value) else none

/-- The grants are what the strings of the last `allowed_paths` line decode to, or the default. -/
inductive GrantsOf (base : List String) : List (List Char) → List String → Prop
  | default : (∀ line ∈ lines, pathsValue line = none) → GrantsOf base lines base
  | written (before : List (List Char)) {line : List Char} {after : List (List Char)}
      {inner : List Char} : pathsValue line = some ('[' :: (inner ++ [']'])) →
      (∀ line ∈ after, pathsValue line = none) → Entries inner (paths.map String.toList) →
      GrantsOf base (before ++ line :: after) paths

theorem GrantsOf.cons (h : GrantsOf base lines paths) (hline : pathsValue line = none) :
    GrantsOf base (line :: lines) paths := by
  cases h with
  | default hlines => exact .default (List.forall_mem_cons.2 ⟨hline, hlines⟩)
  | written before hvalue hafter hentries =>
    exact .written (line :: before) hvalue hafter hentries

/-- What a line does to the grants. -/
theorem applyLineWith_grants {policy policy' : Policy} {lineNumber : Nat} {rawLine : List Char}
    (h : applyLineWith cutAtComment policy lineNumber rawLine = .ok policy') :
    (pathsValue rawLine = none ∧ policy'.allowedPaths = policy.allowedPaths) ∨
      ∃ inner, pathsValue rawLine = some ('[' :: (inner ++ [']'])) ∧
        Entries inner (policy'.allowedPaths.map String.toList) := by
  rw [applyLineWith] at h
  rw [pathsValue]
  split at h
  case isTrue hempty =>
    cases h
    rw [hempty]
    exact .inl ⟨rfl, rfl⟩
  case isFalse =>
    split at h
    case h_1 => cases h
    case h_2 key value hsplit =>
      obtain ⟨-, ⟨hkey, -, hpaths⟩ | ⟨hkey, hread⟩⟩ := applyKey_ok h
      · left
        rw [if_neg]
        · exact ⟨rfl, hpaths⟩
        · intro he
          exact hkey (by rw [he, String.ofList_toList])
      · right
        obtain ⟨inner, hinner, hentries⟩ := parseStringArray_ok_iff.1 hread
        rw [Text.trim_trimmed (Text.trim_is_trimmed value)] at hinner
        refine ⟨inner, ?_, hentries⟩
        rw [if_pos, hinner]
        rw [← hkey, String.toList_ofList]

theorem applyLinesWith_grants {policy policy' : Policy} {lineNumber : Nat}
    {rawLines : List (List Char)}
    (h : applyLinesWith cutAtComment policy lineNumber rawLines = .ok policy') :
    GrantsOf policy.allowedPaths rawLines policy'.allowedPaths := by
  induction rawLines generalizing policy lineNumber with
  | nil =>
    cases h
    exact .default (List.forall_mem_nil _)
  | cons rawLine rawLines ih =>
    obtain ⟨next, hline, hrest⟩ := Returns.bind_ok h
    have hgrants := ih hrest
    rcases applyLineWith_grants hline with ⟨hnone, hpaths⟩ | ⟨inner, hvalue, hentries⟩
    · rw [hpaths] at hgrants
      exact hgrants.cons hnone
    · generalize hbase : next.allowedPaths = base at hgrants hentries
      generalize policy'.allowedPaths = paths at hgrants ⊢
      cases hgrants with
      | default hlines => exact .written [] hvalue hlines hentries
      | written before hvalue' hafter hentries' =>
        exact .written (rawLine :: before) hvalue' hafter hentries'

/-- What `parse` accepts the reference accepts, with the same policy, and its grants are whole
strings of the file. -/
theorem parse_fail_closed (contents : String) (policy : Policy)
    (h : parse contents = .ok policy) :
    referenceParse contents = .ok policy ∧
      GrantsOf default.allowedPaths (Text.lines contents.toList) policy.allowedPaths := by
  rw [parse_eq, parseWith] at h
  obtain ⟨read, hread, hnonempty⟩ := Returns.bind_ok h
  have hreference := applyLinesWith_reference hread
  have hparse : referenceParse contents = .ok policy := by
    rw [referenceParse, parseWith, hreference]
    exact hnonempty
  refine ⟨hparse, ?_⟩
  split at hnonempty
  · cases hnonempty
  · cases hnonempty
    exact applyLinesWith_grants hreference

theorem commented_policy_grants :
    GrantsOf default.allowedPaths
      (Text.lines "allowed_paths = [\"/a\", \"/b\\\"c\"] # two".toList) ["/a", "/b\"c"] := by
  have h := parse_fail_closed "allowed_paths = [\"/a\", \"/b\\\"c\"] # two"
    { default with allowedPaths := ["/a", "/b\"c"] } (by decide)
  exact h.2

end WasmerSectest.Policy
