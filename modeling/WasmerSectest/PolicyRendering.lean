import WasmerSectest.PolicyGrants

namespace WasmerSectest.Policy
set_option autoImplicit true

open Quoted

inductive Key where
  | maxPacketLen
  | maxCapStringLen
  | maxAlloc
  | initialFuel
  | maxMemoryPages
  | requireTickImport
  | supervisorTimeoutMs
  | allowedPaths
  deriving DecidableEq

def Key.all : List Key :=
  [.maxPacketLen, .maxCapStringLen, .maxAlloc, .initialFuel, .maxMemoryPages, .requireTickImport,
    .supervisorTimeoutMs, .allowedPaths]

def Key.name : Key → String
  | .maxPacketLen => "max_packet_len"
  | .maxCapStringLen => "max_cap_string_len"
  | .maxAlloc => "max_alloc"
  | .initialFuel => "initial_fuel"
  | .maxMemoryPages => "max_memory_pages"
  | .requireTickImport => "require_tick_import"
  | .supervisorTimeoutMs => "supervisor_timeout_ms"
  | .allowedPaths => "allowed_paths"

def renderPath (path : String) : List Char := quoted (quotedCodec.escape path.toList)

def renderEntries (paths : List String) : List Char := [',', ' '].intercalate (paths.map renderPath)

def renderPaths (paths : List String) : List Char := '[' :: (renderEntries paths ++ [']'])

def Key.value (policy : Policy) : Key → List Char
  | .maxPacketLen => Nat.toDigits 10 policy.maxPacketLen.toNat
  | .maxCapStringLen => Nat.toDigits 10 policy.maxCapStringLen.toNat
  | .maxAlloc => Nat.toDigits 10 policy.maxAlloc.toNat
  | .initialFuel => Nat.toDigits 10 policy.initialFuel.toNat
  | .maxMemoryPages => Nat.toDigits 10 policy.maxMemoryPages.toNat
  | .requireTickImport => (if policy.requireTickImport then "true" else "false").toList
  | .supervisorTimeoutMs => Nat.toDigits 10 policy.supervisorTimeoutMs.toNat
  | .allowedPaths => renderPaths policy.allowedPaths

/-- One `key = value` line of a policy. -/
def Key.line (policy : Policy) (key : Key) : List Char :=
  key.name.toList ++ (" = ".toList ++ key.value policy)

/-- A line of a policy file: an entry or none, white space around it, and perhaps a comment. -/
structure Row where
  lead : List Char
  key : Option Key
  trail : List Char
  comment : Option (List Char)
  lead_blank : ∀ c ∈ lead, Text.isWhitespace c = true
  trail_blank : ∀ c ∈ trail, Text.isWhitespace c = true
  one_line : '\n' ∉ lead ∧ '\n' ∉ trail ∧ ∀ text ∈ comment, '\n' ∉ text

def Row.entry (policy : Policy) (row : Row) : List Char := (row.key.map (Key.line policy)).getD []

def Row.remark (row : Row) : List Char := (row.comment.map ('#' :: ·)).getD []

def Row.text (policy : Policy) (row : Row) : List Char :=
  row.lead ++ (row.entry policy ++ (row.trail ++ row.remark))

/-- A policy file with one line for every key, in some order, among other lines. -/
structure Layout where
  rows : List Row
  complete : (rows.filterMap Row.key).Perm Key.all

def Layout.render (policy : Policy) (layout : Layout) : String :=
  String.ofList (layout.rows.flatMap fun row => row.text policy ++ ['\n'])

def Key.set (target policy : Policy) : Key → Policy
  | .maxPacketLen => { policy with maxPacketLen := target.maxPacketLen }
  | .maxCapStringLen => { policy with maxCapStringLen := target.maxCapStringLen }
  | .maxAlloc => { policy with maxAlloc := target.maxAlloc }
  | .initialFuel => { policy with initialFuel := target.initialFuel }
  | .maxMemoryPages => { policy with maxMemoryPages := target.maxMemoryPages }
  | .requireTickImport => { policy with requireTickImport := target.requireTickImport }
  | .supervisorTimeoutMs => { policy with supervisorTimeoutMs := target.supervisorTimeoutMs }
  | .allowedPaths => { policy with allowedPaths := target.allowedPaths }

theorem Key.set_comm (target policy : Policy) (key key' : Key) :
    key'.set target (key.set target policy) = key.set target (key'.set target policy) := by
  cases key <;> cases key' <;> rfl

/-- Setting every key, in any order, gives the policy that the values come from. -/
theorem set_all {keys : List Key} (h : keys.Perm Key.all) (target policy : Policy) :
    keys.foldl (fun policy key => key.set target policy) policy = target := by
  rw [h.foldl_eq' fun key _ key' _ policy => Key.set_comm target policy key key']
  simp only [Key.all, List.foldl_cons, List.foldl_nil, Key.set]

theorem parseU32_digits (n : UInt32) (lineNumber : Nat) (key : String) :
    parseU32 (Nat.toDigits 10 n.toNat) lineNumber key = .ok n := by
  rw [parseU32, Decimal.parseUnsigned_toDigits n.toNat_lt]
  exact congrArg Except.ok UInt32.ofNat_toNat

theorem parseU64_digits (n : UInt64) (lineNumber : Nat) (key : String) :
    parseU64 (Nat.toDigits 10 n.toNat) lineNumber key = .ok n := by
  rw [parseU64, Decimal.parseUnsigned_toDigits n.toNat_lt]
  exact congrArg Except.ok UInt64.ofNat_toNat

theorem parseBool_render (b : Bool) (lineNumber : Nat) (key : String) :
    parseBool (if b then "true" else "false").toList lineNumber key = .ok b := by
  cases b
  · rfl
  · rfl

theorem Entries.after_gap {blank : List Char} (hgap : Gap blank) (h : Entries chars outs) :
    Entries (blank ++ chars) outs := by
  have happend {gap' : List Char} (hgap' : Gap gap') : Gap (blank ++ gap') :=
    List.forall_mem_append.2 ⟨hgap, hgap'⟩
  cases h with
  | nil hgap' => exact .nil (happend hgap')
  | last hgap' hbody hblank =>
    rw [← List.append_assoc]
    exact .last (happend hgap') hbody hblank
  | cons hgap' hbody hblank hrest =>
    rw [← List.append_assoc]
    exact .cons (happend hgap') hbody hblank hrest

theorem quotedText_escape (path : String) :
    QuotedText (quotedCodec.escape path.toList) path.toList :=
  literal_escape (by decide) path.toList

theorem renderEntries_cons (path path' : String) (paths : List String) :
    renderEntries (path :: path' :: paths) =
      renderPath path ++ ([',', ' '] ++ renderEntries (path' :: paths)) := by
  rw [renderEntries, List.map_cons, List.map_cons, List.intercalate_cons_cons, List.append_assoc]
  rfl

theorem entries_render (path : String) (paths : List String) :
    Entries (renderEntries (path :: paths)) ((path :: paths).map String.toList) := by
  have hblank : ∀ c ∈ ([] : List Char), Text.isWhitespace c = true := List.forall_mem_nil _
  induction paths generalizing path with
  | nil =>
    rw [renderEntries, List.map_singleton, List.intercalate_singleton, renderPath, quoted]
    exact .last (List.forall_mem_nil _) (quotedText_escape path) hblank
  | cons path' paths ih =>
    have hcomma : Gap [',', ' '] :=
      List.forall_mem_cons.2 ⟨.inr rfl, List.forall_mem_singleton.2 (.inl (by decide))⟩
    have hrest := (ih path').after_gap hcomma
    rw [renderEntries_cons, renderPath, quoted, List.cons_append, List.append_assoc]
    exact .cons (List.forall_mem_nil _) (quotedText_escape path) hblank hrest

theorem renderPaths_trimmed (paths : List String) : Text.Trimmed (renderPaths paths) :=
  Text.trimmed_between (by decide) (by decide) _

theorem parseStringArray_render {paths : List String} (h : paths ≠ []) (lineNumber : Nat) :
    parseStringArray (renderPaths paths) lineNumber = .ok paths := by
  obtain ⟨path, paths, rfl⟩ := List.exists_cons_of_ne_nil h
  rw [parseStringArray_ok_iff, Text.trim_trimmed (renderPaths_trimmed _)]
  exact ⟨_, rfl, entries_render path paths⟩

theorem applyKey_value {target : Policy} (h : target.allowedPaths ≠ []) (policy : Policy)
    (lineNumber : Nat) (key : Key) :
    policy.applyKey lineNumber key.name (key.value target) = .ok (key.set target policy) := by
  cases key
  case requireTickImport =>
    simp only [Key.name, Key.value, applyKey, parseBool_render]
    rfl
  case allowedPaths =>
    simp only [Key.name, Key.value, applyKey, parseStringArray_render h]
    rfl
  all_goals
    simp only [Key.name, Key.value, applyKey, parseU32_digits, parseU64_digits]
    rfl

theorem Key.name_plain (key : Key) :
    '#' ∉ key.name.toList ∧ '\n' ∉ key.name.toList ∧ '=' ∉ key.name.toList ∧
      '"' ∉ key.name.toList ∧ ' ' ∉ key.name.toList := by
  cases key <;> decide

theorem trimmed_of_no_whitespace (h : ∀ c ∈ text, Text.isWhitespace c = false) :
    Text.Trimmed text where
  head := fun c hc => h c (List.mem_of_head? hc)
  last := fun c hc => h c (List.mem_of_getLast? hc)

theorem Key.name_trimmed (key : Key) : Text.Trimmed key.name.toList := by
  have hall : key.name.toList.all (fun c => !Text.isWhitespace c) = true := by
    cases key <;> decide
  apply trimmed_of_no_whitespace
  intro c hc
  simpa using List.all_eq_true.1 hall c hc

theorem digit_not_whitespace (h : c.isDigit = true) : Text.isWhitespace c = false := by
  rw [Char.isDigit, Bool.and_eq_true, decide_eq_true_eq, decide_eq_true_eq] at h
  have hlo : 48 ≤ c.toNat := h.1
  have hhi : c.toNat ≤ 57 := h.2
  simp only [Text.isWhitespace, Bool.or_eq_false_iff, Bool.and_eq_false_iff,
    decide_eq_false_iff_not]
  omega

theorem digits_trimmed (n : Nat) : Text.Trimmed (Nat.toDigits 10 n) :=
  trimmed_of_no_whitespace fun _ hc => digit_not_whitespace (Decimal.mem_toDigits hc)

theorem Key.value_trimmed (policy : Policy) (key : Key) : Text.Trimmed (key.value policy) := by
  cases key
  case requireTickImport =>
    rw [Key.value]
    cases policy.requireTickImport
    · exact Text.trimmed_between (by decide) (by decide) "als".toList
    · exact Text.trimmed_between (by decide) (by decide) "ru".toList
  case allowedPaths => exact renderPaths_trimmed _
  all_goals exact digits_trimmed _

theorem Key.value_ne_nil (policy : Policy) (key : Key) : key.value policy ≠ [] := by
  cases key
  case requireTickImport =>
    rw [Key.value]
    cases policy.requireTickImport <;> decide
  case allowedPaths => exact List.cons_ne_nil _ _
  all_goals exact Nat.toDigits_ne_nil

theorem trimmed_append {first last : List Char} (hfirst : Text.Trimmed first)
    (hlast : Text.Trimmed last) (hne : first ≠ []) (hne' : last ≠ []) (middle : List Char) :
    Text.Trimmed (first ++ (middle ++ last)) where
  head := by
    rw [List.head?_append_of_ne_nil _ hne]
    exact hfirst.head
  last := by
    rw [← List.append_assoc, List.getLast?_append_of_ne_nil _ hne']
    exact hlast.last

theorem Key.line_trimmed (policy : Policy) (key : Key) : Text.Trimmed (key.line policy) := by
  have hname : key.name.toList ≠ [] := by cases key <;> decide
  exact trimmed_append key.name_trimmed (key.value_trimmed policy) hname
    (key.value_ne_nil policy) _

theorem applyLine_eq_of_trim {rawLine rawLine' : List Char}
    (h : Text.trim (cutAtHash rawLine) = Text.trim (cutAtHash rawLine')) (policy : Policy)
    (lineNumber : Nat) :
    policy.applyLine lineNumber rawLine = policy.applyLine lineNumber rawLine' := by
  rw [applyLine_eq, applyLine_eq, applyLineWith, applyLineWith, h]

theorem applyLine_entry {target : Policy} {rawLine : List Char} {key : Key}
    (hne : target.allowedPaths ≠ [])
    (h : Text.trim (cutAtHash rawLine) = key.line target) (policy : Policy) (lineNumber : Nat) :
    policy.applyLine lineNumber rawLine = .ok (key.set target policy) := by
  have hempty : key.line target ≠ [] := by
    rw [Key.line]
    exact List.append_ne_nil_of_right_ne_nil _ (List.cons_ne_nil _ _)
  have hequals : '=' ∉ key.name.toList ++ [' '] := by
    rw [List.mem_append, not_or]
    exact ⟨key.name_plain.2.2.1, by decide⟩
  have hsplit : Text.splitOnce '=' (key.line target) =
      some (key.name.toList ++ [' '], ' ' :: key.value target) := by
    have happend := Text.splitOnce_append hequals (' ' :: key.value target)
    rw [List.append_assoc] at happend
    exact happend
  have hspace : ∀ c ∈ [' '], Text.isWhitespace c = true :=
    List.forall_mem_singleton.2 (by decide)
  have hname : Text.trim (key.name.toList ++ [' ']) = key.name.toList :=
    Text.trim_padded key.name_trimmed (List.forall_mem_nil _) hspace
  have hvalue : Text.trim (' ' :: key.value target) = key.value target := by
    have hpad := Text.trim_padded (key.value_trimmed target) hspace (List.forall_mem_nil _)
    rwa [List.append_nil] at hpad
  rw [applyLine_eq, applyLineWith, h, if_neg hempty]
  simp only [hsplit, hname, hvalue, String.ofList_toList]
  exact applyKey_value hne policy lineNumber key

theorem applyLine_blank (h : Text.trim (cutAtHash rawLine) = []) (policy : Policy)
    (lineNumber : Nat) : policy.applyLine lineNumber rawLine = .ok policy := by
  rw [applyLine_eq, applyLineWith, h, if_pos rfl]

def Row.set (target policy : Policy) (row : Row) : Policy :=
  (row.key.map (Key.set target policy)).getD policy

/-- No path of the policy holds the sign of a comment. -/
def Signless (policy : Policy) : Prop := ∀ path ∈ policy.allowedPaths, '#' ∉ path.toList

theorem mem_renderPath (h : c ∈ renderPath path) :
    c = '"' ∨ c ∈ quotedCodec.escape path.toList := by
  rw [renderPath, quoted, List.mem_cons, List.mem_append, List.mem_singleton] at h
  rcases h with h | h | h
  · exact .inl h
  · exact .inr h
  · exact .inl h

theorem mem_renderEntries (h : c ∈ renderEntries paths) :
    c ∈ ['"', ',', ' '] ∨ ∃ path ∈ paths, c ∈ quotedCodec.escape path.toList := by
  have hpath {path : String} {paths : List String} (hm : path ∈ paths) (h : c ∈ renderPath path) :
      c ∈ ['"', ',', ' '] ∨ ∃ path ∈ paths, c ∈ quotedCodec.escape path.toList := by
    rcases mem_renderPath h with rfl | h
    · exact .inl List.mem_cons_self
    · exact .inr ⟨path, hm, h⟩
  induction paths with
  | nil => cases h
  | cons path paths ih =>
    cases paths with
    | nil =>
      rw [renderEntries, List.map_singleton, List.intercalate_singleton] at h
      exact hpath List.mem_cons_self h
    | cons path' paths =>
      rw [renderEntries_cons, List.mem_append, List.mem_append] at h
      rcases h with h | h | h
      · exact hpath List.mem_cons_self h
      · exact .inl (List.mem_cons_of_mem _ h)
      · rcases ih h with h | ⟨path, hm, h⟩
        · exact .inl h
        · exact .inr ⟨path, List.mem_cons_of_mem _ hm, h⟩

theorem Key.mem_value {policy : Policy} {key : Key} (h : c ∈ key.value policy) :
    c.isDigit = true ∨ c.isLower = true ∨ c ∈ ['[', ']', '"', ',', ' '] ∨
      ∃ path ∈ policy.allowedPaths, c ∈ quotedCodec.escape path.toList := by
  cases key
  case requireTickImport =>
    have htrue : "true".toList.all Char.isLower = true := by decide
    have hfalse : "false".toList.all Char.isLower = true := by decide
    rw [Key.value] at h
    split at h
    · exact .inr (.inl (List.all_eq_true.1 htrue c h))
    · exact .inr (.inl (List.all_eq_true.1 hfalse c h))
  case allowedPaths =>
    rw [Key.value, renderPaths, List.mem_cons, List.mem_append, List.mem_singleton] at h
    rcases h with rfl | h | rfl
    · exact .inr (.inr (.inl (by decide)))
    · rcases mem_renderEntries h with h | h
      · exact .inr (.inr (.inl (List.mem_cons_of_mem _ (List.mem_cons_of_mem _ h))))
      · exact .inr (.inr (.inr h))
    · exact .inr (.inr (.inl (by decide)))
  all_goals exact .inl (Decimal.mem_toDigits h)

theorem Key.not_mem_line {policy : Policy} {key : Key} (hname : c ∉ key.name.toList)
    (hplain : c.isDigit = false ∧ c.isLower = false ∧ c ∉ ['[', ']', '"', ',', ' ', '='])
    (hpaths : ∀ path ∈ policy.allowedPaths, c ∉ quotedCodec.escape path.toList) :
    c ∉ key.line policy := by
  obtain ⟨hdigit, hlower, hpunctuation⟩ := hplain
  intro h
  rw [Key.line, List.mem_append, List.mem_append] at h
  rcases h with h | h | h
  · exact hname h
  · apply hpunctuation
    change c ∈ [' ', '=', ' '] at h
    simp only [List.mem_cons, List.not_mem_nil, or_false] at h ⊢
    tauto
  · rcases Key.mem_value h with h | h | h | ⟨path, hpath, h⟩
    · rw [hdigit] at h
      cases h
    · rw [hlower] at h
      cases h
    · exact hpunctuation (List.mem_append_left ['='] h)
    · exact hpaths path hpath h

theorem mem_escape_sign {path : String} :
    '#' ∈ quotedCodec.escape path.toList ↔ '#' ∈ path.toList :=
  quotedCodec.mem_escape_iff rfl (by decide) rfl path.toList

theorem Key.line_signless {policy : Policy} (h : Signless policy) (key : Key) :
    '#' ∉ key.line policy := by
  apply Key.not_mem_line key.name_plain.1
  · decide
  · intro path hpath hsign
    exact h path hpath (mem_escape_sign.1 hsign)

theorem Key.line_one_line (policy : Policy) (key : Key) : '\n' ∉ key.line policy := by
  apply Key.not_mem_line key.name_plain.2.1
  · decide
  · intro path _
    exact quotedCodec.not_mem_escape (by decide) (by decide) rfl path.toList

theorem blank_signless {blank : List Char} (h : ∀ c ∈ blank, Text.isWhitespace c = true) :
    '#' ∉ blank :=
  fun hm => absurd (h _ hm) (by decide)

theorem takeWhile_append_sign {text rest : List Char} (h : '#' ∉ text) :
    cutAtHash (text ++ rest) = text ++ cutAtHash rest := by
  rw [cutAtHash, List.takeWhile_append_of_pos]
  · rfl
  · intro c hc
    rw [decide_eq_true_eq]
    rintro rfl
    exact h hc

theorem cutAtHash_remark (row : Row) : cutAtHash row.remark = [] := by
  rw [Row.remark]
  cases row.comment with
  | none => rfl
  | some text => rfl

theorem cutAtHash_row {policy : Policy} {row : Row} (h : '#' ∉ row.entry policy) :
    cutAtHash (row.text policy) = row.lead ++ (row.entry policy ++ row.trail) := by
  rw [Row.text, takeWhile_append_sign (blank_signless row.lead_blank), takeWhile_append_sign h,
    takeWhile_append_sign (blank_signless row.trail_blank), cutAtHash_remark, List.append_nil]

theorem applyLine_row {target : Policy} (hne : target.allowedPaths ≠ []) (h : Signless target)
    (policy : Policy) (lineNumber : Nat) (row : Row) :
    policy.applyLine lineNumber (row.text target) = .ok (row.set target policy) := by
  have htrim (hentry : '#' ∉ row.entry target) (htrimmed : Text.Trimmed (row.entry target)) :
      Text.trim (cutAtHash (row.text target)) = row.entry target := by
    rw [cutAtHash_row hentry]
    exact Text.trim_padded htrimmed row.lead_blank row.trail_blank
  rw [Row.set]
  cases hkey : row.key with
  | none =>
    have hentry : row.entry target = [] := by
      rw [Row.entry, hkey]
      rfl
    rw [hentry] at htrim
    exact applyLine_blank (htrim List.not_mem_nil
      (trimmed_of_no_whitespace (List.forall_mem_nil _))) policy lineNumber
  | some key =>
    have hentry : row.entry target = key.line target := by
      rw [Row.entry, hkey]
      rfl
    rw [hentry] at htrim
    exact applyLine_entry hne (htrim (Key.line_signless h key) (key.line_trimmed target)) policy
      lineNumber

theorem stripComment_renderPath (path : String) (rest : List Char) :
    cutAtComment (renderPath path ++ rest) = renderPath path ++ cutAtComment rest := by
  have hbody := (quotedText_escape path).stripComment (by decide) '#' ('"' :: rest)
  rw [renderPath, quoted, List.cons_append, List.append_assoc, List.singleton_append, List.cons_append,
    List.append_assoc, List.singleton_append]
  change '"' :: stripComment '\\' '"' '#' .inside (_ ++ '"' :: rest) = _
  exact congrArg ('"' :: ·) hbody

theorem stripComment_renderEntries (paths : List String) (rest : List Char) :
    cutAtComment (renderEntries paths ++ rest) = renderEntries paths ++ cutAtComment rest := by
  induction paths with
  | nil => rfl
  | cons path paths ih =>
    cases paths with
    | nil =>
      rw [renderEntries, List.map_singleton, List.intercalate_singleton]
      exact stripComment_renderPath path rest
    | cons path' paths =>
      rw [renderEntries_cons, List.append_assoc, List.append_assoc, stripComment_renderPath,
        cutAtComment, stripComment_plain _ _ (by decide) (by decide), ← cutAtComment, ih,
        List.append_assoc, List.append_assoc]

theorem sign_mem_renderEntries {paths : List String} (hpath : path ∈ paths)
    (h : '#' ∈ path.toList) : '#' ∈ renderEntries paths := by
  have hown : '#' ∈ renderPath path :=
    List.mem_cons_of_mem _ (List.mem_append_left _ (mem_escape_sign.2 h))
  induction paths with
  | nil => cases hpath
  | cons path' paths ih =>
    cases paths with
    | nil =>
      obtain rfl := List.mem_singleton.1 hpath
      rw [renderEntries, List.map_singleton, List.intercalate_singleton]
      exact hown
    | cons path'' paths =>
      rw [renderEntries_cons]
      rcases List.mem_cons.1 hpath with rfl | hpath
      · exact List.mem_append_left _ hown
      · exact List.mem_append_right _ (List.mem_append_right _ (ih hpath))

theorem sign_mem_cutAtComment {target : Policy} {row : Row} (hkey : row.key = some .allowedPaths)
    (hpath : path ∈ target.allowedPaths) (h : '#' ∈ path.toList) :
    '#' ∈ cutAtComment (row.text target) := by
  have hlead : '"' ∉ row.lead := fun hm => absurd (row.lead_blank _ hm) (by decide)
  have hentry : row.entry target = "allowed_paths = [".toList ++
      (renderEntries target.allowedPaths ++ [']']) := by
    rw [Row.entry, hkey]
    rfl
  rw [Row.text, cutAtComment, stripComment_plain _ _ (blank_signless row.lead_blank) hlead, hentry,
    List.append_assoc, stripComment_plain _ _ (by decide) (by decide), List.append_assoc,
    ← cutAtComment, stripComment_renderEntries]
  apply List.mem_append_right
  apply List.mem_append_right
  exact List.mem_append_left _ (sign_mem_renderEntries hpath h)

theorem sign_not_mem_cutAtHash (text : List Char) : '#' ∉ cutAtHash text := by
  intro h
  have hne := List.mem_takeWhile_imp h
  revert hne
  decide

theorem applyLine_sign {target policy policy' : Policy} {row : Row} {lineNumber : Nat}
    (hkey : row.key = some .allowedPaths) (hpath : path ∈ target.allowedPaths)
    (h : '#' ∈ path.toList) :
    policy.applyLine lineNumber (row.text target) ≠ .ok policy' := by
  intro hok
  rw [applyLine_eq] at hok
  have hmem := sign_mem_cutAtComment hkey hpath h
  rw [cutAtComment_eq hok] at hmem
  exact sign_not_mem_cutAtHash _ hmem

def Row.readBack (policy : Policy) (row : Row) : List Char :=
  (Text.stripSuffix '\r' (row.text policy)).getD (row.text policy)

theorem Row.text_one_line (policy : Policy) (row : Row) : '\n' ∉ row.text policy := by
  obtain ⟨hlead, htrail, hcomment⟩ := row.one_line
  have hentry : '\n' ∉ row.entry policy := by
    rw [Row.entry]
    cases row.key with
    | none => exact List.not_mem_nil
    | some key => exact Key.line_one_line policy key
  have hremark : '\n' ∉ row.remark := by
    rw [Row.remark]
    cases htext : row.comment with
    | none => exact List.not_mem_nil
    | some text =>
      intro hm
      rcases List.mem_cons.1 hm with he | hm
      · cases he
      · exact hcomment text htext hm
  rw [Row.text, List.mem_append, List.mem_append, List.mem_append]
  rintro (h | h | h | h)
  · exact hlead h
  · exact hentry h
  · exact htrail h
  · exact hremark h

theorem lines_render (policy : Policy) (rows : List Row) :
    Text.lines (rows.flatMap fun row => row.text policy ++ ['\n']) =
      rows.map (Row.readBack policy) := by
  induction rows with
  | nil => rfl
  | cons row rows ih =>
    rw [List.flatMap_cons, List.append_assoc, List.singleton_append,
      Text.lines_line_append (row.text_one_line policy), ih]
    rfl

theorem trim_append_blank {blank : List Char} (h : ∀ c ∈ blank, Text.isWhitespace c = true)
    (text : List Char) : Text.trim (text ++ blank) = Text.trim text := by
  obtain ⟨lead, trail, hlead, htrail, he⟩ := Text.exists_padding text
  have hpad := Text.trim_padded (Text.trim_is_trimmed text) hlead
    (List.forall_mem_append.2 ⟨htrail, h⟩)
  rw [← List.append_assoc, ← List.append_assoc, List.append_assoc lead, ← he] at hpad
  exact hpad

theorem cutAtHash_cons (h : c ≠ '#') (text : List Char) :
    cutAtHash (c :: text) = c :: cutAtHash text := by
  rw [cutAtHash, List.takeWhile_cons_of_pos]
  · rfl
  · exact decide_eq_true h

theorem cutAtHash_append_of_mem {text : List Char} (h : '#' ∈ text) (rest : List Char) :
    cutAtHash (text ++ rest) = cutAtHash text := by
  induction text with
  | nil => cases h
  | cons c text ih =>
    by_cases hc : c = '#'
    · subst hc
      rfl
    · have htext : '#' ∈ text := (List.mem_cons.1 h).resolve_left (Ne.symm hc)
      rw [List.cons_append, cutAtHash_cons hc, cutAtHash_cons hc, ih htext]

theorem trim_cutAtHash_stripSuffix (text : List Char) :
    Text.trim (cutAtHash ((Text.stripSuffix '\r' text).getD text)) =
      Text.trim (cutAtHash text) := by
  rw [Text.stripSuffix]
  split
  case isFalse => rfl
  case isTrue hlast =>
    rw [Option.getD_some]
    have htext := List.dropLast_append_getLast? _ hlast
    by_cases hsign : '#' ∈ text.dropLast
    · conv_rhs => rw [← htext, cutAtHash_append_of_mem hsign]
    · have hblank : ∀ c ∈ ['\r'], Text.isWhitespace c = true :=
        List.forall_mem_singleton.2 (by decide)
      have hcut := @takeWhile_append_sign _ [] hsign
      rw [List.append_nil] at hcut
      conv_rhs => rw [← htext, takeWhile_append_sign hsign]
      rw [hcut]
      change Text.trim (_ ++ []) = Text.trim (_ ++ ['\r'])
      rw [List.append_nil, trim_append_blank hblank]

theorem applyLine_readBack (target policy : Policy) (lineNumber : Nat) (row : Row) :
    policy.applyLine lineNumber (row.readBack target) =
      policy.applyLine lineNumber (row.text target) :=
  applyLine_eq_of_trim (trim_cutAtHash_stripSuffix _) policy lineNumber

theorem applyLines_rows {target : Policy} (hne : target.allowedPaths ≠ []) (h : Signless target)
    (rows : List Row) (policy : Policy) (lineNumber : Nat) :
    policy.applyLines lineNumber (rows.map (Row.readBack target)) =
      .ok ((rows.filterMap Row.key).foldl (fun policy key => key.set target policy) policy) := by
  induction rows generalizing policy lineNumber with
  | nil => rfl
  | cons row rows ih =>
    rw [List.map_cons, applyLines, applyLine_readBack, applyLine_row hne h, Row.set]
    change applyLines _ _ _ = _
    rw [ih, List.filterMap_cons]
    cases row.key with
    | none => rfl
    | some key => rfl

theorem applyLines_ok_mem {policy policy' : Policy} {lineNumber : Nat} {lines : List (List Char)}
    (h : policy.applyLines lineNumber lines = .ok policy') (hline : line ∈ lines) :
    ∃ before lineNumber after, applyLine before lineNumber line = .ok after := by
  induction lines generalizing policy lineNumber with
  | nil => cases hline
  | cons first lines ih =>
    obtain ⟨next, hfirst, hrest⟩ := Returns.bind_ok h
    rcases List.mem_cons.1 hline with rfl | hline
    · exact ⟨policy, lineNumber, next, hfirst⟩
    · exact ih hrest hline

theorem lines_layout (policy : Policy) (layout : Layout) :
    Text.lines (layout.render policy).toList = layout.rows.map (Row.readBack policy) := by
  rw [Layout.render, String.toList_ofList]
  exact lines_render policy layout.rows

theorem signless_of_parse {policy policy' : Policy} {layout : Layout}
    (h : parse (layout.render policy) = .ok policy') : Signless policy := by
  intro path hpath hsign
  rw [parse, lines_layout] at h
  obtain ⟨read, hread, -⟩ := Returns.bind_ok h
  have hall : Key.allowedPaths ∈ layout.rows.filterMap Row.key :=
    layout.complete.mem_iff.2 (by decide)
  obtain ⟨row, hrow, hkey⟩ := List.mem_filterMap.1 hall
  obtain ⟨before, lineNumber, after, hline⟩ :=
    applyLines_ok_mem hread (List.mem_map_of_mem hrow)
  rw [applyLine_readBack] at hline
  exact applyLine_sign hkey hpath hsign hline

/-- A rendered policy is read back as it was, exactly if no path holds the sign of a comment. -/
theorem parse_render_iff (policy : Policy) (hne : policy.allowedPaths ≠ []) (layout : Layout) :
    parse (layout.render policy) = .ok policy ↔ Signless policy := by
  constructor
  · exact signless_of_parse
  · intro h
    rw [parse, lines_layout, applyLines_rows hne h, set_all layout.complete policy default]
    change (if policy.allowedPaths = [] then _ else _) = _
    rw [if_neg hne]
    rfl

def Row.plain (key : Key) : Row where
  lead := []
  key := some key
  trail := []
  comment := none
  lead_blank := List.forall_mem_nil _
  trail_blank := List.forall_mem_nil _
  one_line := by decide

def Layout.plain : Layout where
  rows := Key.all.map Row.plain
  complete := by decide

/-- The same line as an editor on another system leaves it: indented, and with its own break. -/
def Row.edited (key : Option Key) (comment : Option String)
    (one_line : ∀ text ∈ comment.map String.toList, '\n' ∉ text := by decide) : Row where
  lead := [' ', '\t']
  key := key
  trail := if comment.isSome then [' '] else ['\r']
  comment := comment.map String.toList
  lead_blank := List.forall_mem_cons.2 ⟨by decide, List.forall_mem_singleton.2 (by decide)⟩
  trail_blank := by
    split
    · exact List.forall_mem_singleton.2 (by decide)
    · exact List.forall_mem_singleton.2 (by decide)
  one_line := by
    refine ⟨by decide, ?_, one_line⟩
    split
    · decide
    · decide

def Layout.edited : Layout where
  rows := .edited none (some " limits of the sandbox\r") ::
    .edited (some .allowedPaths) (some " two paths, \"quoted\"\r") :: .edited none none ::
    (Key.all.reverse.drop 1).map fun key => .edited (some key) none
  complete := by decide

def editedPolicy : Policy where
  allowedPaths := ["/sandbox/a \"b\" c.txt", "C:\\data\\\n\t"]
  maxPacketLen := 4294967295
  maxCapStringLen := 0
  maxAlloc := 1
  initialFuel := 7
  maxMemoryPages := 65536
  requireTickImport := false
  supervisorTimeoutMs := 18446744073709551615

theorem edited_policy_read_back :
    parse (Layout.edited.render editedPolicy) = .ok editedPolicy := by
  apply (parse_render_iff editedPolicy (by decide) Layout.edited).2
  unfold Signless
  decide

theorem path_with_sign_refused :
    let policy := { default with allowedPaths := ["/sandbox/#1"] }
    applyLine default 8 (Key.line policy .allowedPaths) =
        .error "line 8: allowed_paths must be a string array" ∧
      parse (Layout.plain.render policy) ≠ .ok policy := by
  intro policy
  refine ⟨by decide, ?_⟩
  intro h
  have hsignless := signless_of_parse h "/sandbox/#1" List.mem_cons_self
  revert hsignless
  decide

end WasmerSectest.Policy
