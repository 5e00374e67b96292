import WasmerSectest.Lib.Escape

namespace Quoted
set_option autoImplicit true

open Escape

/-- Where a reader stands in a text with quoted strings. -/
inductive Mode where
  | outside
  | inside
  | escaped
  deriving DecidableEq

section
variable (mark quote : Char)

def step : Mode → Char → Mode
  | .outside, c => if c = quote then .inside else .outside
  | .inside, c => if c = quote then .outside else if c = mark then .escaped else .inside
  | .escaped, _ => .inside

def scan (mode : Mode) (text : List Char) : Mode := text.foldl (step mark quote) mode

/-- The text up to a comment; the sign of a comment has no meaning within quotes. -/
def stripComment (sign : Char) : Mode → List Char → List Char
  | _, [] => []
  | mode, c :: text =>
    if mode = .outside ∧ c = sign then []
    else c :: stripComment sign (step mark quote mode c) text

theorem scan_append (mode : Mode) (text text' : List Char) :
    scan mark quote mode (text ++ text') = scan mark quote (scan mark quote mode text) text' :=
  List.foldl_append

theorem scan_outside (h : quote ∉ text) : scan mark quote .outside text = .outside := by
  induction text with
  | nil => rfl
  | cons c text ih =>
    rw [List.mem_cons, not_or] at h
    change scan mark quote (step mark quote .outside c) text = _
    rw [step, if_neg (Ne.symm h.1)]
    exact ih h.2

/-- A cut at the first sign is the cut at the comment, unless it falls within quotes. -/
theorem stripComment_or_open (sign : Char) (mode : Mode) (text : List Char) :
    stripComment mark quote sign mode text = text.takeWhile (· ≠ sign) ∨
      scan mark quote mode (text.takeWhile (· ≠ sign)) ≠ .outside := by
  induction text generalizing mode with
  | nil => exact .inl rfl
  | cons c text ih =>
    by_cases hc : c = sign
    · rw [List.takeWhile_cons_of_neg (by simp [hc]), stripComment]
      by_cases hmode : mode = .outside
      · rw [if_pos ⟨hmode, hc⟩]
        exact .inl rfl
      · exact .inr hmode
    · rw [List.takeWhile_cons_of_pos (by simp [hc]), stripComment, if_neg fun h => hc h.2]
      apply (ih (step mark quote mode c)).imp
      · intro h
        rw [h]
      · intro h
        exact h

theorem stripComment_plain {text : List Char} (hsign : sign ∉ text) (hquote : quote ∉ text)
    (rest : List Char) :
    stripComment mark quote sign .outside (text ++ rest) =
      text ++ stripComment mark quote sign .outside rest := by
  induction text with
  | nil => rfl
  | cons c text ih =>
    rw [List.mem_cons, not_or] at hsign hquote
    rw [List.cons_append, stripComment, if_neg fun h => hsign.1 h.2.symm, step,
      if_neg (Ne.symm hquote.1), ih hsign.2 hquote.2]
    rfl

end

/-- What may stand between two quotes, with what it decodes to. -/
inductive Literal (k : Codec) (quote : Char) : List Char → List Char → Prop
  | nil : Literal k quote [] []
  | escape : k.char e = some c → Literal k quote text out →
      Literal k quote (k.mark :: e :: text) (c :: out)
  | char : c ≠ quote → c ≠ k.mark → Literal k quote text out → Literal k quote (c :: text) (c :: out)

/-- A quote that is not part of an escape. -/
inductive QuoteInside (mark quote : Char) : List Char → Prop
  | here : QuoteInside mark quote (quote :: text)
  | escape : QuoteInside mark quote text → QuoteInside mark quote (mark :: e :: text)
  | char : c ≠ mark → QuoteInside mark quote text → QuoteInside mark quote (c :: text)

section
variable {k : Codec} {quote : Char}

def WellEscaped (k : Codec) (text : List Char) : Prop := ∃ out, k.unescape text = some out

theorem Literal.unescape (h : Literal k quote text out) : k.unescape text = some out := by
  induction h with
  | nil => rfl
  | escape he _ ih =>
    rw [Codec.unescape_mark k he, ih]
    rfl
  | char _ hmark _ ih =>
    rw [Codec.unescape_cons k hmark, ih]
    rfl

theorem Literal.no_quote (hq : quote ≠ k.mark) (h : Literal k quote text out) :
    ¬QuoteInside k.mark quote text := by
  induction h with
  | nil =>
    intro hin
    cases hin
  | escape _ _ ih =>
    intro hin
    cases hin with
    | here => exact hq rfl
    | escape hin => exact ih hin
    | char hmark => exact hmark rfl
  | char hquote hmark _ ih =>
    intro hin
    cases hin with
    | here => exact hquote rfl
    | escape => exact hmark rfl
    | char _ hin => exact ih hin

theorem unescape_char (hc : c ≠ k.mark) (h : k.unescape (c :: text) = some out) :
    ∃ tail, k.unescape text = some tail ∧ out = c :: tail := by
  rw [Codec.unescape_cons k hc, Option.map_eq_some_iff] at h
  obtain ⟨tail, htail, rfl⟩ := h
  exact ⟨tail, htail, rfl⟩

theorem literal_of_unescape (h : k.unescape text = some out)
    (hin : ¬QuoteInside k.mark quote text) : Literal k quote text out := by
  induction text using Codec.unescape.induct k generalizing out with
  | case1 =>
    cases h
    exact .nil
  | case2 =>
    rw [Codec.unescape, if_pos rfl] at h
    cases h
  | case3 c hc =>
    obtain ⟨tail, htail, rfl⟩ := unescape_char hc h
    cases htail
    exact .char (fun he => hin (he ▸ .here)) hc .nil
  | case4 e text d he ih =>
    rw [Codec.unescape_mark k he, Option.map_eq_some_iff] at h
    obtain ⟨tail, htail, rfl⟩ := h
    exact .escape he (ih htail fun hquote => hin (.escape hquote))
  | case5 e text he =>
    rw [Codec.unescape, if_pos rfl, he] at h
    cases h
  | case6 c d text hc ih =>
    obtain ⟨tail, htail, rfl⟩ := unescape_char hc h
    exact .char (fun he => hin (he ▸ .here)) hc
      (ih htail fun hquote => hin (.char hc hquote))

theorem literal_iff (hq : quote ≠ k.mark) :
    Literal k quote text out ↔ k.unescape text = some out ∧ ¬QuoteInside k.mark quote text :=
  ⟨fun h => ⟨h.unescape, h.no_quote hq⟩, fun h => literal_of_unescape h.1 h.2⟩

theorem Literal.scan (hq : quote ≠ k.mark) (h : Literal k quote text out) :
    scan k.mark quote .inside text = .inside := by
  induction h with
  | nil => rfl
  | @escape e c text out _ _ ih =>
    change Quoted.scan k.mark quote (step k.mark quote (step k.mark quote .inside k.mark) e) text = _
    rw [step, if_neg hq.symm, if_pos rfl]
    exact ih
  | @char c text out hquote hmark _ ih =>
    change Quoted.scan k.mark quote (step k.mark quote .inside c) text = _
    rw [step, if_neg hquote, if_neg hmark]
    exact ih

/-- No part of a string is taken for a comment. -/
theorem Literal.stripComment (hq : quote ≠ k.mark) (h : Literal k quote text out) (sign : Char)
    (rest : List Char) :
    stripComment k.mark quote sign .inside (text ++ rest) =
      text ++ stripComment k.mark quote sign .inside rest := by
  have hinside : Mode.inside ≠ .outside := by decide
  have hescaped : Mode.escaped ≠ .outside := by decide
  induction h with
  | nil => rfl
  | escape _ _ ih =>
    rw [List.cons_append, List.cons_append, Quoted.stripComment, if_neg fun h => hinside h.1, step,
      if_neg hq.symm, if_pos rfl, Quoted.stripComment, if_neg fun h => hescaped h.1, step, ih]
    rfl
  | char hquote hmark _ ih =>
    rw [List.cons_append, Quoted.stripComment, if_neg fun h => hinside h.1, step, if_neg hquote,
      if_neg hmark, ih]
    rfl

/-- Escaping a text makes the text of a string that stands for it. -/
theorem literal_escape (hquote : k.letter quote ≠ none) (text : List Char) :
    Literal k quote (k.escape text) text := by
  induction text with
  | nil => exact .nil
  | cons c text ih =>
    rw [Codec.escape]
    cases hl : k.letter c with
    | some l => exact .escape (k.char_letter c l hl) ih
    | none =>
      refine .char ?_ ?_ ih
      · intro he
        exact hquote (he ▸ hl)
      · intro he
        exact k.letter_mark (he ▸ hl)

end

section
variable {mark quote c : Char} {text : List Char}

theorem not_quoteInside_nil : ¬QuoteInside mark quote [] := by
  intro hin
  cases hin

theorem quoteInside_cons_iff (hmark : c ≠ mark) (hquote : c ≠ quote) :
    QuoteInside mark quote (c :: text) ↔ QuoteInside mark quote text := by
  constructor
  · intro hin
    cases hin with
    | here => exact absurd rfl hquote
    | escape => exact absurd rfl hmark
    | char _ hin => exact hin
  · exact .char hmark

theorem quoteInside_escape_iff (hne : mark ≠ quote) :
    QuoteInside mark quote (mark :: c :: text) ↔ QuoteInside mark quote text := by
  constructor
  · intro hin
    cases hin with
    | here => exact absurd rfl hne
    | escape hin => exact hin
    | char hmark => exact absurd rfl hmark
  · exact .escape

theorem QuoteInside.append (h : QuoteInside mark quote text) (rest : List Char) :
    QuoteInside mark quote (text ++ rest) := by
  induction h with
  | here => exact .here
  | escape _ ih => exact .escape ih
  | char hmark _ ih => exact .char hmark ih

theorem QuoteInside.mem (h : QuoteInside mark quote text) : quote ∈ text := by
  induction h with
  | here => exact List.mem_cons_self
  | escape _ ih => exact List.mem_cons_of_mem _ (List.mem_cons_of_mem _ ih)
  | char _ _ ih => exact List.mem_cons_of_mem _ ih

/-- A text cut at every delimiter that is not part of an escape. -/
def splitUnescaped (mark quote : Char) : List Char → List (List Char)
  | [] => [[]]
  | [c] => if c = quote then [[], []] else [[c]]
  | c :: d :: text =>
    if c = mark then (splitUnescaped mark quote text).modifyHead (c :: d :: ·)
    else if c = quote then [] :: splitUnescaped mark quote (d :: text)
    else (splitUnescaped mark quote (d :: text)).modifyHead (c :: ·)

theorem splitUnescaped_quote (hne : mark ≠ quote) (text : List Char) :
    splitUnescaped mark quote (quote :: text) = [] :: splitUnescaped mark quote text := by
  cases text with
  | nil => rw [splitUnescaped, splitUnescaped, if_pos rfl]
  | cons d text => rw [splitUnescaped, if_neg hne.symm, if_pos rfl]

theorem mem_modifyHead {f : α → α} {items : List α} {item : α} (h : item ∈ items.modifyHead f) :
    item ∈ items ∨ ∃ first ∈ items, item = f first := by
  cases items with
  | nil => exact .inl h
  | cons first items =>
    rcases List.mem_cons.1 h with rfl | h
    · exact .inr ⟨first, List.mem_cons_self, rfl⟩
    · exact .inl (List.mem_cons_of_mem first h)

theorem mem_splitUnescaped (hne : mark ≠ quote) {piece : List Char}
    (h : piece ∈ splitUnescaped mark quote text) :
    ¬QuoteInside mark quote piece ∧ piece ⊆ text := by
  induction text using splitUnescaped.induct mark quote generalizing piece with
  | case1 =>
    rw [splitUnescaped, List.mem_singleton] at h
    subst h
    exact ⟨not_quoteInside_nil, List.Subset.refl _⟩
  | case2 =>
    rw [splitUnescaped_quote hne, splitUnescaped] at h
    have hnil : piece = [] := by simpa using h
    subst hnil
    exact ⟨not_quoteInside_nil, List.nil_subset _⟩
  | case3 c hquote =>
    rw [splitUnescaped, if_neg hquote, List.mem_singleton] at h
    subst h
    refine ⟨?_, List.Subset.refl _⟩
    intro hin
    cases hin with
    | here => exact hquote rfl
    | char _ hin => exact not_quoteInside_nil hin
  | case4 d text ih =>
    rw [splitUnescaped, if_pos rfl] at h
    rcases mem_modifyHead h with hpiece | ⟨first, hfirst, rfl⟩
    · obtain ⟨hin, hsub⟩ := ih hpiece
      exact ⟨hin, List.subset_cons_of_subset _ (List.subset_cons_of_subset _ hsub)⟩
    · obtain ⟨hin, hsub⟩ := ih hfirst
      exact ⟨fun h => hin ((quoteInside_escape_iff hne).1 h),
        List.cons_subset_cons _ (List.cons_subset_cons _ hsub)⟩
  | case5 d text _ ih =>
    rw [splitUnescaped_quote hne] at h
    rcases List.mem_cons.1 h with rfl | h
    · exact ⟨not_quoteInside_nil, List.nil_subset _⟩
    · obtain ⟨hin, hsub⟩ := ih h
      exact ⟨hin, List.subset_cons_of_subset _ hsub⟩
  | case6 c d text hmark hquote ih =>
    rw [splitUnescaped, if_neg hmark, if_neg hquote] at h
    rcases mem_modifyHead h with hpiece | ⟨first, hfirst, rfl⟩
    · obtain ⟨hin, hsub⟩ := ih hpiece
      exact ⟨hin, List.subset_cons_of_subset _ hsub⟩
    · obtain ⟨hin, hsub⟩ := ih hfirst
      exact ⟨fun h => hin ((quoteInside_cons_iff hmark hquote).1 h), List.cons_subset_cons _ hsub⟩

theorem splitUnescaped_append (hne : mark ≠ quote) {last : Char} (hmark : last ≠ mark)
    (hquote : last ≠ quote) (h : ¬QuoteInside mark quote text) (rest : List Char) :
    splitUnescaped mark quote (text ++ last :: quote :: rest) =
      (text ++ [last]) :: splitUnescaped mark quote rest := by
  have hlast : splitUnescaped mark quote (last :: quote :: rest) =
      [last] :: splitUnescaped mark quote rest := by
    rw [splitUnescaped, if_neg hmark, if_neg hquote, splitUnescaped_quote hne]
    rfl
  induction text using splitUnescaped.induct mark quote with
  | case1 => exact hlast
  | case2 => exact absurd .here h
  | case3 c hc =>
    change splitUnescaped mark quote (c :: last :: quote :: rest) = _
    by_cases hcmark : c = mark
    · rw [splitUnescaped, if_pos hcmark, splitUnescaped_quote hne]
      rfl
    · rw [splitUnescaped, if_neg hcmark, if_neg hc, hlast]
      rfl
  | case4 d text ih =>
    have htext := ih fun hin => h ((quoteInside_escape_iff hne).2 hin)
    rw [List.cons_append, List.cons_append, splitUnescaped, if_pos rfl, htext]
    rfl
  | case5 => exact absurd .here h
  | case6 c d text hcmark hcquote ih =>
    have htext := ih fun hin => h ((quoteInside_cons_iff hcmark hcquote).2 hin)
    rw [List.cons_append] at htext
    rw [List.cons_append, List.cons_append, splitUnescaped, if_neg hcmark, if_neg hcquote, htext]
    rfl

theorem QuoteInside.of_concat {last : Char} (hquote : last ≠ quote)
    (h : QuoteInside mark quote (text ++ [last])) : QuoteInside mark quote text := by
  generalize hwhole : text ++ [last] = whole at h
  induction h generalizing text with
  | here =>
    cases text with
    | nil =>
      cases hwhole
      exact absurd rfl hquote
    | cons c text =>
      cases hwhole
      exact .here
  | escape hin ih =>
    cases text with
    | nil => cases hwhole
    | cons c text =>
      cases text with
      | nil =>
        cases hwhole
        exact absurd hin not_quoteInside_nil
      | cons d text =>
        cases hwhole
        exact .escape (ih rfl)
  | char hmark hin ih =>
    cases text with
    | nil =>
      cases hwhole
      exact absurd hin not_quoteInside_nil
    | cons c text =>
      cases hwhole
      exact .char hmark (ih rfl)

end

end Quoted
