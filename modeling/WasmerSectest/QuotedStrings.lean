import WasmerSectest.Corpus
import WasmerSectest.Lib.Quoted
import WasmerSectest.Lib.Returns
import WasmerSectest.Policy

namespace WasmerSectest
set_option autoImplicit true

open Quoted

/-- The escapes in the strings of policy files and manifests. -/
def quotedCodec : Escape.Codec where
  mark := '\\'
  letter
    | '"' => some '"'
    | '\\' => some '\\'
    | '\n' => some 'n'
    | '\r' => some 'r'
    | '\t' => some 't'
    | _ => none
  char
    | '"' => some '"'
    | '\\' => some '\\'
    | 'n' => some '\n'
    | 'r' => some '\r'
    | 't' => some '\t'
    | _ => none
  letter_mark := by decide
  char_letter := by
    intro c l h
    split at h <;> cases h <;> rfl

/-- The text between two double quotes, with what it decodes to. -/
abbrev QuotedText (text out : List Char) : Prop := Literal quotedCodec '"' text out

section
-- the equations of a reader are generated here, once, and not by each of the proofs at a time
attribute [local simp] parseQuotedString

theorem parseQuotedString_escape (h : quotedCodec.char e = some c) (lineNumber : Nat)
    (chars : List Char) :
    parseQuotedString lineNumber ('\\' :: e :: chars) =
      (parseQuotedString lineNumber chars).map (c :: ·) := by
  simp only [quotedCodec] at h
  split at h <;> cases h <;> rw [parseQuotedString] <;> rfl

theorem parseQuotedString_no_escape (h : quotedCodec.char e = none) (lineNumber : Nat)
    (chars : List Char) :
    ∃ err, parseQuotedString lineNumber ('\\' :: e :: chars) = .error err := by
  simp only [quotedCodec] at h
  split at h <;> cases h
  rw [parseQuotedString]
  · exact ⟨_, rfl⟩
  all_goals assumption

theorem parseQuotedString_char (hc : c ≠ '\\') (lineNumber : Nat) (chars : List Char) :
    parseQuotedString lineNumber (c :: chars) =
      (parseQuotedString lineNumber chars).map (c :: ·) := by
  rw [parseQuotedString]
  · rfl
  · intro hmark
    exact absurd hmark hc
  · intro e chars' hmark
    exact absurd hmark hc

end

/-- The manifest's reader decodes the escapes, and takes a quote for itself. -/
theorem parseQuotedString_ok_iff {lineNumber : Nat} {chars out : List Char} :
    parseQuotedString lineNumber chars = .ok out ↔ quotedCodec.unescape chars = some out := by
  induction chars using Escape.Codec.unescape.induct quotedCodec generalizing out with
  | case1 =>
    rw [parseQuotedString, Escape.Codec.unescape, Except.ok.injEq, Option.some_inj]
  | case2 =>
    rw [Escape.Codec.unescape, if_pos rfl]
    constructor
    · intro h
      cases h
    · intro h
      cases h
  | case3 c hc =>
    rw [parseQuotedString_char hc, Escape.Codec.unescape_cons _ hc, parseQuotedString]
    constructor
    · intro h
      cases h
      rfl
    · intro h
      cases h
      rfl
  | case4 e text d he ih =>
    have hmark : quotedCodec.mark = '\\' := rfl
    rw [Escape.Codec.unescape_mark _ he, hmark, parseQuotedString_escape he, Returns.map_ok_iff,
      Option.map_eq_some_iff]
    simp only [ih]
  | case5 e text he =>
    obtain ⟨err, herr⟩ := parseQuotedString_no_escape he lineNumber text
    have hmark : quotedCodec.mark = '\\' := rfl
    rw [Escape.Codec.unescape, if_pos rfl, he, hmark, herr]
    constructor
    · intro h
      cases h
    · intro h
      cases h
  | case6 c d text hc ih =>
    rw [Escape.Codec.unescape_cons _ hc, parseQuotedString_char hc, Returns.map_ok_iff,
      Option.map_eq_some_iff]
    simp only [ih]

namespace Policy

section
attribute [local simp] readQuoted

theorem readQuoted_escape (h : quotedCodec.char e = some c) (lineNumber : Nat)
    (chars : List Char) :
    readQuoted lineNumber ('\\' :: e :: chars) =
      (readQuoted lineNumber chars).map (Prod.map (c :: ·) id) := by
  simp only [quotedCodec] at h
  split at h <;> cases h <;> rw [readQuoted] <;> rfl

theorem readQuoted_no_escape (h : quotedCodec.char e = none) (lineNumber : Nat)
    (chars : List Char) :
    ∃ err, readQuoted lineNumber ('\\' :: e :: chars) = .error err := by
  simp only [quotedCodec] at h
  split at h <;> cases h
  rw [readQuoted]
  · exact ⟨_, rfl⟩
  all_goals assumption

theorem readQuoted_char (hquote : c ≠ '"') (hmark : c ≠ '\\') (lineNumber : Nat)
    (chars : List Char) :
    readQuoted lineNumber (c :: chars) =
      (readQuoted lineNumber chars).map (Prod.map (c :: ·) id) := by
  rw [readQuoted]
  · rfl
  · exact hquote
  · intro he
    exact absurd he hmark
  · intro e chars' he
    exact absurd he hmark

end

theorem readQuoted_text (h : QuotedText body out) (lineNumber : Nat) (rest : List Char) :
    readQuoted lineNumber (body ++ '"' :: rest) = .ok (out, rest) := by
  induction h with
  | nil => rfl
  | @escape e c text out he _ ih =>
    change readQuoted lineNumber ('\\' :: e :: (text ++ '"' :: rest)) = _
    rw [readQuoted_escape he, ih]
    rfl
  | char hquote hmark _ ih =>
    rw [List.cons_append, readQuoted_char hquote hmark, ih]
    rfl

theorem readQuoted_cons_ok (hmark : c ≠ '\\')
    (h : readQuoted lineNumber (c :: chars) = .ok (out, rest)) :
    (c = '"' ∧ out = [] ∧ rest = chars) ∨
      c ≠ '"' ∧ ∃ tail, readQuoted lineNumber chars = .ok (tail, rest) ∧ out = c :: tail := by
  by_cases hquote : c = '"'
  · subst hquote
    rw [readQuoted] at h
    cases h
    exact .inl ⟨rfl, rfl, rfl⟩
  · rw [readQuoted_char hquote hmark, Returns.map_ok_iff] at h
    obtain ⟨⟨tail, rest'⟩, hread, he⟩ := h
    cases he
    exact .inr ⟨hquote, tail, hread, rfl⟩

/-- The policy's reader takes what stands before the first quote outside of escapes. -/
theorem readQuoted_ok {lineNumber : Nat} {chars out rest : List Char}
    (h : readQuoted lineNumber chars = .ok (out, rest)) :
    ∃ body, chars = body ++ '"' :: rest ∧ QuotedText body out := by
  induction chars using Escape.Codec.unescape.induct quotedCodec generalizing out with
  | case1 => cases h
  | case2 => cases h
  | case3 c hc =>
    rcases readQuoted_cons_ok hc h with ⟨rfl, rfl, rfl⟩ | ⟨-, tail, hread, rfl⟩
    · exact ⟨[], rfl, .nil⟩
    · cases hread
  | case4 e text d he ih =>
    have hmark : quotedCodec.mark = '\\' := rfl
    rw [hmark, readQuoted_escape he, Returns.map_ok_iff] at h
    obtain ⟨⟨tail, rest'⟩, hread, hpair⟩ := h
    cases hpair
    obtain ⟨body, rfl, hbody⟩ := ih hread
    exact ⟨'\\' :: e :: body, rfl, .escape he hbody⟩
  | case5 e text he =>
    obtain ⟨err, herr⟩ := readQuoted_no_escape he lineNumber text
    have hmark : quotedCodec.mark = '\\' := rfl
    rw [hmark, herr] at h
    cases h
  | case6 c d text hc ih =>
    rcases readQuoted_cons_ok hc h with ⟨rfl, rfl, rfl⟩ | ⟨hquote, tail, hread, rfl⟩
    · exact ⟨[], rfl, .nil⟩
    · obtain ⟨body, hbody, hquoted⟩ := ih hread
      refine ⟨c :: body, ?_, .char hquote hc hquoted⟩
      rw [hbody, List.cons_append]

/-- White space and commas, which the reader skips between entries. -/
def Gap (text : List Char) : Prop := ∀ c ∈ text, Text.isWhitespace c = true ∨ c = ','

/-- The entries of an array, with what they decode to. -/
inductive Entries : List Char → List (List Char) → Prop
  | nil : Gap gap → Entries gap []
  | last : Gap gap → QuotedText body out → (∀ c ∈ blank, Text.isWhitespace c = true) →
      Entries (gap ++ '"' :: (body ++ '"' :: blank)) [out]
  | cons : Gap gap → QuotedText body out → (∀ c ∈ blank, Text.isWhitespace c = true) →
      Entries (',' :: rest) outs →
      Entries (gap ++ '"' :: (body ++ '"' :: (blank ++ ',' :: rest))) (out :: outs)

theorem skipWsAndCommas_gap (h : Gap gap) (rest : List Char) :
    skipWsAndCommas (gap ++ rest) = skipWsAndCommas rest := by
  rw [skipWsAndCommas, List.dropWhile_append_of_pos]
  · rfl
  · intro c hc
    rw [Bool.or_eq_true, decide_eq_true_eq]
    exact h c hc

theorem exists_gap (chars : List Char) : ∃ gap, Gap gap ∧ chars = gap ++ skipWsAndCommas chars := by
  refine ⟨chars.takeWhile fun ch => Text.isWhitespace ch || ch = ',', ?_, ?_⟩
  · intro c hc
    have hall := List.mem_takeWhile_imp hc
    rwa [Bool.or_eq_true, decide_eq_true_eq] at hall
  · exact (List.takeWhile_append_dropWhile).symm

theorem exists_blank (chars : List Char) :
    ∃ blank, (∀ c ∈ blank, Text.isWhitespace c = true) ∧ chars = blank ++ skipWs chars :=
  ⟨chars.takeWhile Text.isWhitespace, fun _ hc => List.mem_takeWhile_imp hc,
    List.takeWhile_append_dropWhile.symm⟩

theorem skipWs_blank (h : ∀ c ∈ blank, Text.isWhitespace c = true) (rest : List Char) :
    skipWs (blank ++ rest) = skipWs rest := by
  rw [skipWs, List.dropWhile_append_of_pos h]
  rfl

theorem skipWs_eq_nil_iff : skipWs chars = [] ↔ ∀ c ∈ chars, Text.isWhitespace c = true := by
  rw [skipWs, List.dropWhile_eq_nil_iff]

theorem parseEntries_done (hskip : skipWsAndCommas chars = []) (lineNumber fuel : Nat) :
    parseEntries lineNumber fuel chars = .ok [] := by
  cases fuel with
  | zero => rfl
  | succ fuel =>
    rw [parseEntries, hskip]

theorem parseEntries_last (hskip : skipWsAndCommas chars = '"' :: (body ++ '"' :: rest))
    (hbody : QuotedText body out) (hrest : skipWs rest = []) (lineNumber fuel : Nat) :
    parseEntries lineNumber (fuel + 1) chars = .ok [String.ofList out] := by
  rw [parseEntries, hskip]
  simp only [readQuoted_text hbody lineNumber rest, bind, Except.bind, hrest]
  rfl

theorem parseEntries_next (hskip : skipWsAndCommas chars = '"' :: (body ++ '"' :: rest))
    (hbody : QuotedText body out) (hrest : skipWs rest = ',' :: rest') (lineNumber fuel : Nat) :
    parseEntries lineNumber (fuel + 1) chars =
      (parseEntries lineNumber fuel (',' :: rest')).map (String.ofList out :: ·) := by
  rw [parseEntries, hskip]
  simp only [readQuoted_text hbody lineNumber rest, bind, Except.bind, hrest]
  rfl

/-- What the reader of the array accepts, with fuel for every character. -/
theorem parseEntries_of_entries (h : Entries chars outs) (lineNumber : Nat)
    (hfuel : chars.length ≤ fuel) :
    parseEntries lineNumber fuel chars = .ok (outs.map String.ofList) := by
  induction h generalizing fuel with
  | @nil gap hgap =>
    apply parseEntries_done
    have hskip := skipWsAndCommas_gap hgap []
    rwa [List.append_nil] at hskip
  | @last gap body out blank hgap hbody hblank =>
    cases fuel with
    | zero => simp at hfuel
    | succ fuel =>
      exact parseEntries_last (skipWsAndCommas_gap hgap _) hbody (skipWs_eq_nil_iff.2 hblank) _ _
  | @cons gap body out blank rest outs hgap hbody hblank _ ih =>
    cases fuel with
    | zero => simp at hfuel
    | succ fuel =>
      have hrest : (',' :: rest).length ≤ fuel := by
        simp only [List.length_append, List.length_cons] at hfuel ⊢
        omega
      rw [parseEntries_next (skipWsAndCommas_gap hgap _) hbody (skipWs_blank hblank _), ih hrest]
      rfl

theorem parseEntries_ok {lineNumber fuel : Nat} {chars : List Char} {paths : List String}
    (h : parseEntries lineNumber fuel chars = .ok paths) (hfuel : chars.length ≤ fuel) :
    Entries chars (paths.map String.toList) := by
  induction fuel generalizing chars paths with
  | zero =>
    obtain rfl := List.eq_nil_of_length_eq_zero (Nat.le_zero.1 hfuel)
    cases h
    apply Entries.nil
    intro c hc
    cases hc
  | succ fuel ih =>
    obtain ⟨gap, hgap, hchars⟩ := exists_gap chars
    rw [parseEntries] at h
    split at h
    case h_1 hskip =>
      cases h
      rw [hskip, List.append_nil] at hchars
      rw [hchars]
      exact .nil hgap
    case h_2 tail hskip =>
      rw [hskip] at hchars
      cases hread : readQuoted lineNumber tail with
      | error err =>
        rw [hread] at h
        cases h
      | ok value =>
        obtain ⟨out, rest⟩ := value
        obtain ⟨body, rfl, hbody⟩ := readQuoted_ok hread
        obtain ⟨blank, hblank, hrest⟩ := exists_blank rest
        simp only [hread, bind, Except.bind] at h
        split at h
        case h_1 hws =>
          cases h
          rw [hws, List.append_nil] at hrest
          rw [hchars, hrest, List.map_singleton, String.toList_ofList]
          exact .last hgap hbody hblank
        case h_2 rest' hws =>
          rw [hws] at hrest
          cases hparse : parseEntries lineNumber fuel (',' :: rest') with
          | error err =>
            rw [hparse] at h
            cases h
          | ok more =>
            rw [hparse] at h
            cases h
            have hlength : (',' :: rest').length ≤ fuel := by
              rw [hchars, hrest] at hfuel
              simp only [List.length_append, List.length_cons] at hfuel ⊢
              omega
            rw [hchars, hrest, List.map_cons, String.toList_ofList]
            exact .cons hgap hbody hblank (ih hparse hlength)
        case h_3 => cases h
    case h_3 => cases h

theorem parseEntries_ok_iff {lineNumber : Nat} {chars : List Char} {paths : List String} :
    parseEntries lineNumber chars.length chars = .ok paths ↔
      Entries chars (paths.map String.toList) := by
  constructor
  · intro h
    exact parseEntries_ok h (Nat.le_refl _)
  · intro h
    rw [parseEntries_of_entries h lineNumber (Nat.le_refl _), List.map_map]
    simp

theorem bracketed {text : List Char} (h : text.head? = some '[') (h' : text.getLast? = some ']') :
    text = '[' :: (text.tail.dropLast ++ [']']) := by
  obtain ⟨tail, rfl⟩ := List.head?_eq_some_iff.1 h
  cases tail with
  | nil => cases h'
  | cons c tail =>
    rw [List.getLast?_cons_cons] at h'
    rw [List.tail_cons, List.dropLast_append_getLast? _ h']

/-- The array of a policy: entries in brackets. -/
theorem parseStringArray_ok_iff {value : List Char} {lineNumber : Nat} {paths : List String} :
    parseStringArray value lineNumber = .ok paths ↔
      ∃ inner, Text.trim value = '[' :: (inner ++ [']']) ∧
        Entries inner (paths.map String.toList) := by
  rw [parseStringArray]
  by_cases hb : (Text.trim value).head? ≠ some '[' ∨ (Text.trim value).getLast? ≠ some ']'
  · rw [if_pos hb]
    constructor
    · intro h
      cases h
    · intro h
      obtain ⟨inner, he, -⟩ := h
      rw [he] at hb
      rcases hb with hb | hb
      · exact absurd rfl hb
      · rw [← List.cons_append, List.getLast?_concat] at hb
        exact absurd rfl hb
  · rw [if_neg hb]
    rw [not_or, not_not, not_not] at hb
    have he := bracketed hb.1 hb.2
    apply parseEntries_ok_iff.trans
    constructor
    · intro h
      exact ⟨_, he, h⟩
    · intro h
      obtain ⟨inner, hinner, hentries⟩ := h
      rw [hinner, List.tail_cons, List.dropLast_concat]
      exact hentries

end Policy

def quoted (text : List Char) : List Char := '"' :: (text ++ ['"'])

/-- The two readers take the same texts between quotes, for the same strings; a quoted value of
the manifest ends with its first quote. -/
structure ReadersAgree (text : String) : Prop where
  same : ∀ (manifestLine policyLine : Nat) (value : String),
    parseQuotedOrBare (quoted text.toList) manifestLine = .ok value ↔
      Policy.parseStringArray ('[' :: (quoted text.toList ++ [']'])) policyLine = .ok [value]
  closing : ∀ (manifestLine : Nat) (value : String),
    parseQuotedOrBare (quoted text.toList) manifestLine = .ok value →
      ¬QuoteInside '\\' '"' text.toList

theorem quoted_trimmed (text : List Char) : Text.Trimmed (quoted text) :=
  Text.trimmed_between (by decide) (by decide) text

theorem parseQuotedOrBare_quoted_ok_iff {text : List Char} {lineNumber : Nat} {value : String} :
    parseQuotedOrBare (quoted text) lineNumber = .ok value ↔
      quotedCodec.unescape text = some value.toList := by
  have hhead : (quoted text).head? = some '"' := rfl
  have hlast : (quoted text).getLast? = some '"' := by
    rw [quoted, ← List.cons_append, List.getLast?_concat]
  have hlength : ¬(quoted text).length < 2 := by
    rw [quoted, List.length_cons, List.length_append, List.length_singleton]
    omega
  have hbody : (quoted text).tail.dropLast = text := by
    rw [quoted, List.tail_cons, List.dropLast_concat]
  rw [parseQuotedOrBare, Text.trim_trimmed (quoted_trimmed text), if_pos hhead,
    if_neg (by rw [hlast]; simp [hlength]), hbody, Returns.map_ok_iff]
  simp only [parseQuotedString_ok_iff]
  constructor
  · intro h
    obtain ⟨out, hout, rfl⟩ := h
    rwa [String.toList_ofList]
  · intro h
    exact ⟨_, h, String.ofList_toList⟩

namespace Policy

theorem Entries.gap (h : Entries chars []) : Gap chars := by
  cases h with
  | nil hgap => exact hgap

theorem Entries.first (h : Entries chars (out :: outs)) :
    ∃ gap body rest, Gap gap ∧ QuotedText body out ∧ chars = gap ++ '"' :: (body ++ '"' :: rest) ∧
      ((∀ c ∈ rest, Text.isWhitespace c = true) ∧ outs = [] ∨
        ∃ blank more, (∀ c ∈ blank, Text.isWhitespace c = true) ∧ rest = blank ++ ',' :: more ∧
          Entries (',' :: more) outs) := by
  cases h with
  | last hgap hbody hblank => exact ⟨_, _, _, hgap, hbody, rfl, .inl ⟨hblank, rfl⟩⟩
  | cons hgap hbody hblank hrest =>
    exact ⟨_, _, _, hgap, hbody, rfl, .inr ⟨_, _, hblank, rfl, hrest⟩⟩

theorem not_gap (h : '"' ∈ chars) : ¬Gap chars := by
  intro hgap
  rcases hgap '"' h with hws | hcomma
  · exact absurd hws (by decide)
  · cases hcomma

/-- An array that holds one entry and nothing else. -/
theorem entries_quoted_iff {text out : List Char} :
    Entries (quoted text) [out] ↔ QuotedText text out := by
  constructor
  · intro h
    obtain ⟨gap, body, rest, hgap, hbody, he, hrest⟩ := h.first
    have hnil : gap = [] := by
      cases gap with
      | nil => rfl
      | cons c gap =>
        obtain ⟨rfl, -⟩ := List.cons.inj he
        exact absurd hgap (not_gap List.mem_cons_self)
    subst hnil
    have htail : text ++ ['"'] = body ++ '"' :: rest := (List.cons.inj he).2
    have hends : rest = [] ∨ '"' ∈ rest := by
      rcases List.eq_nil_or_concat rest with hnil | ⟨init, c, rfl⟩
      · exact .inl hnil
      · have hlast := congrArg List.getLast? htail
        rw [List.concat_eq_append, ← List.cons_append, ← List.append_assoc, List.getLast?_concat,
          List.getLast?_concat] at hlast
        obtain rfl := Option.some.inj hlast
        rw [List.concat_eq_append]
        exact .inr List.mem_concat_self
    have hrest_nil : rest = [] := by
      rcases hends with hnil | hmem
      · exact hnil
      · exfalso
        rcases hrest with ⟨hblank, -⟩ | ⟨blank, more, hblank, rfl, hmore⟩
        · exact absurd (hblank _ hmem) (by decide)
        · rcases List.mem_append.1 hmem with hmem | hmem
          · exact absurd (hblank _ hmem) (by decide)
          · exact not_gap hmem hmore.gap
    subst hrest_nil
    obtain rfl := List.append_cancel_right htail
    exact hbody
  · intro h
    exact .last (List.forall_mem_nil _) h (List.forall_mem_nil _)

end Policy

theorem parseStringArray_quoted_ok_iff {text : List Char} {lineNumber : Nat} {value : String} :
    Policy.parseStringArray ('[' :: (quoted text ++ [']'])) lineNumber = .ok [value] ↔
      QuotedText text value.toList := by
  have htrimmed : Text.Trimmed ('[' :: (quoted text ++ [']'])) :=
    Text.trimmed_between (by decide) (by decide) _
  rw [Policy.parseStringArray_ok_iff, Text.trim_trimmed htrimmed, List.map_singleton]
  constructor
  · intro h
    obtain ⟨inner, he, hentries⟩ := h
    obtain rfl := List.append_cancel_right (List.cons.inj he).2
    exact Policy.entries_quoted_iff.1 hentries
  · intro h
    exact ⟨_, rfl, Policy.entries_quoted_iff.2 h⟩

/-- The readers agree on a text unless its escapes are right and it holds a quote of its own. -/
theorem readers_agree_iff (text : String) :
    ReadersAgree text ↔
      ¬(WellEscaped quotedCodec text.toList ∧ QuoteInside '\\' '"' text.toList) := by
  have hliteral (out : List Char) : QuotedText text.toList out ↔ _ := literal_iff (by decide)
  constructor
  · intro h hboth
    obtain ⟨⟨out, hout⟩, hquote⟩ := hboth
    apply h.closing 0 (String.ofList out) _ hquote
    rwa [parseQuotedOrBare_quoted_ok_iff, String.toList_ofList]
  · intro h
    have hclosing : ∀ (lineNumber : Nat) (value : String),
        parseQuotedOrBare (quoted text.toList) lineNumber = .ok value →
          ¬QuoteInside '\\' '"' text.toList := by
      intro lineNumber value hread hquote
      rw [parseQuotedOrBare_quoted_ok_iff] at hread
      exact h ⟨⟨_, hread⟩, hquote⟩
    refine ⟨?_, hclosing⟩
    intro manifestLine policyLine value
    rw [parseStringArray_quoted_ok_iff, hliteral]
    constructor
    · intro hread
      exact ⟨parseQuotedOrBare_quoted_ok_iff.1 hread, hclosing _ _ hread⟩
    · intro hread
      exact parseQuotedOrBare_quoted_ok_iff.2 hread.1

theorem inner_quote_splits_readers :
    parseQuotedOrBare (quoted "a\"b".toList) 1 = .ok "a\"b" ∧
      Policy.parseStringArray ('[' :: (quoted "a\"b".toList ++ [']'])) 1 =
        .error "line 1: expected comma after allowed path" ∧
      ¬ReadersAgree "a\"b" := by
  refine ⟨by decide, by decide, ?_⟩
  intro h
  have hread := (h.same 1 1 "a\"b").1 (by decide)
  revert hread
  decide

end WasmerSectest
