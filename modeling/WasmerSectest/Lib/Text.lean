import Mathlib

namespace Text
set_option autoImplicit true

/-- Cut a text after every occurrence of a separator, which stays with its piece. -/
def splitInclusive [DecidableEq α] (sep : α) : List α → List (List α)
  | [] => []
  | x :: xs =>
    if x = sep then [x] :: splitInclusive sep xs
    else
      match splitInclusive sep xs with
      | [] => [[x]]
      | piece :: pieces => (x :: piece) :: pieces

/-- Drop a trailing element if it is the given one. -/
def stripSuffix [DecidableEq α] (x : α) (xs : List α) : Option (List α) :=
  if xs.getLast? = some x then some xs.dropLast else none

/-- A line without its terminator: `\n` or `\r\n`. -/
def stripLineEnd (line : List Char) : List Char :=
  match stripSuffix '\n' line with
  | none => line
  | some body => (stripSuffix '\r' body).getD body

def lines (text : List Char) : List (List Char) :=
  (splitInclusive '\n' text).map stripLineEnd

/-- The characters of the Unicode property White_Space. -/
def isWhitespace (c : Char) : Bool :=
  let n := c.toNat
  (0x9 ≤ n && n ≤ 0xd) || n = 0x20 || n = 0x85 || n = 0xa0 || n = 0x1680 ||
    (0x2000 ≤ n && n ≤ 0x200a) || n = 0x2028 || n = 0x2029 || n = 0x202f || n = 0x205f ||
    n = 0x3000

def trim (text : List Char) : List Char :=
  ((text.dropWhile isWhitespace).reverse.dropWhile isWhitespace).reverse

/-- Rust's `str::split_once`: the text before and after the first separator. -/
def splitOnce [DecidableEq α] (sep : α) : List α → Option (List α × List α)
  | [] => none
  | x :: xs =>
    if x = sep then some ([], xs)
    else (splitOnce sep xs).map fun (before, after) => (x :: before, after)

section
variable [DecidableEq α] {sep : α}

theorem splitInclusive_piece (h : sep ∉ l) (rest : List α) :
    splitInclusive sep (l ++ sep :: rest) = (l ++ [sep]) :: splitInclusive sep rest := by
  induction l with
  | nil => rw [List.nil_append, splitInclusive, if_pos rfl]; rfl
  | cons x l ih =>
    have hx : x ≠ sep := fun he => h (he ▸ List.mem_cons_self)
    have hl : sep ∉ l := fun hm => h (List.mem_cons_of_mem _ hm)
    rw [List.cons_append, splitInclusive, if_neg hx, ih hl]
    rfl

/-- A text is made of complete pieces: it is empty or ends with the separator. -/
def Complete (sep : α) (xs : List α) : Prop := xs = [] ∨ xs.getLast? = some sep

omit [DecidableEq α] in
theorem Complete.tail (h : Complete sep (x :: xs)) : Complete sep xs := by
  cases xs with
  | nil => exact .inl rfl
  | cons y ys => exact .inr ((List.getLast?_cons_cons).symm.trans (h.resolve_left (by simp)))

omit [DecidableEq α] in
theorem complete_concat (xs : List α) (sep : α) : Complete sep (xs ++ [sep]) :=
  .inr List.getLast?_concat

omit [DecidableEq α] in
theorem Complete.append (h : Complete sep xs) (h' : Complete sep ys) :
    Complete sep (xs ++ ys) := by
  rcases h' with rfl | h'
  · rwa [List.append_nil]
  · exact .inr (by rw [List.getLast?_append, h', Option.some_or])

omit [DecidableEq α] in
theorem Complete.flatMap {render : β → List α} {items : List β}
    (h : ∀ item ∈ items, Complete sep (render item)) : Complete sep (items.flatMap render) := by
  induction items with
  | nil => exact .inl rfl
  | cons item items ih =>
    rw [List.forall_mem_cons] at h
    rw [List.flatMap_cons]
    exact h.1.append (ih h.2)

theorem splitInclusive_append (h : Complete sep xs) (ys : List α) :
    splitInclusive sep (xs ++ ys) = splitInclusive sep xs ++ splitInclusive sep ys := by
  induction xs with
  | nil => rfl
  | cons x xs ih =>
    rw [List.cons_append, splitInclusive, splitInclusive, ih h.tail]
    by_cases hx : x = sep
    · rw [if_pos hx, if_pos hx, List.cons_append]
    · rw [if_neg hx, if_neg hx]
      cases hp : splitInclusive sep xs with
      | cons piece pieces => rfl
      | nil =>
        -- only the empty text has no piece, and then the last character is `x`
        cases xs with
        | nil => exact absurd (Option.some.inj (h.resolve_left (by simp))) hx
        | cons y ys =>
          rw [splitInclusive] at hp
          split at hp
          · cases hp
          · split at hp <;> cases hp

end

theorem stripSuffix_concat [DecidableEq α] (xs : List α) (x : α) :
    stripSuffix x (xs ++ [x]) = some xs := by
  rw [stripSuffix, List.getLast?_concat, if_pos rfl, List.dropLast_concat]

/-- A terminated line that holds no line break of its own is read back whole. -/
theorem lines_append (hb : Complete '\n' before) (hn : '\n' ∉ line) (hr : '\r' ∉ line)
    (after : List Char) :
    lines (before ++ (line ++ '\n' :: after)) = lines before ++ line :: lines after := by
  have hs : stripLineEnd (line ++ ['\n']) = line := by
    rw [stripLineEnd, stripSuffix_concat]
    change (stripSuffix '\r' line).getD line = line
    rw [stripSuffix, if_neg fun he => hr (List.mem_of_getLast? he)]
    rfl
  rw [lines, splitInclusive_append hb, splitInclusive_piece hn, List.map_append,
    List.map_cons, hs]
  rfl

theorem mem_splitInclusive [DecidableEq α] {sep : α} {xs piece : List α}
    (h : piece ∈ splitInclusive sep xs) :
    ∃ body, sep ∉ body ∧ body ⊆ xs ∧ (piece = body ∨ piece = body ++ [sep]) := by
  induction xs generalizing piece with
  | nil => cases h
  | cons x xs ih =>
    have hsub (h : piece ∈ splitInclusive sep xs) :
        ∃ body, sep ∉ body ∧ body ⊆ x :: xs ∧ (piece = body ∨ piece = body ++ [sep]) := by
      obtain ⟨body, hsep, hbody, hpiece⟩ := ih h
      exact ⟨body, hsep, List.subset_cons_of_subset _ hbody, hpiece⟩
    rw [splitInclusive] at h
    by_cases hx : x = sep
    · rw [if_pos hx] at h
      rcases List.mem_cons.1 h with hpiece | h
      · exact ⟨[], List.not_mem_nil, List.nil_subset _, .inr (hx ▸ hpiece)⟩
      · exact hsub h
    · rw [if_neg hx] at h
      have hx' : sep ∉ [x] := fun hmem => hx (List.mem_singleton.1 hmem).symm
      cases hp : splitInclusive sep xs with
      | nil =>
        rw [hp, List.mem_singleton] at h
        exact ⟨[x], hx', by simp, .inl h⟩
      | cons first rest =>
        rw [hp] at h hsub ih
        rcases List.mem_cons.1 h with hpiece | h
        · obtain ⟨body, hsep, hbody, hfirst⟩ := ih List.mem_cons_self
          refine ⟨x :: body, ?_, List.cons_subset_cons x hbody, ?_⟩
          · intro hmem
            rcases List.mem_cons.1 hmem with hmem | hmem
            · exact hx hmem.symm
            · exact hsep hmem
          · rw [hpiece]
            rcases hfirst with rfl | rfl
            · exact .inl rfl
            · exact .inr rfl
        · exact hsub (List.mem_cons_of_mem _ h)

theorem mem_lines (h : line ∈ lines text) : '\n' ∉ line ∧ line ⊆ text := by
  obtain ⟨piece, hpiece, rfl⟩ := List.mem_map.1 h
  obtain ⟨body, hbreak, hbody, heq | heq⟩ := mem_splitInclusive hpiece
  · have hsuffix : stripSuffix '\n' body = none :=
      if_neg fun hlast => hbreak (List.mem_of_getLast? hlast)
    rw [heq, stripLineEnd, hsuffix]
    exact ⟨hbreak, hbody⟩
  · have hline : (stripSuffix '\r' body).getD body ⊆ body := by
      rw [stripSuffix]
      split
      · exact List.dropLast_subset body
      · exact List.Subset.refl body
    rw [heq, stripLineEnd, stripSuffix_concat]
    exact ⟨fun hmem => hbreak (hline hmem), List.Subset.trans hline hbody⟩

theorem lines_append_lines (hb : Complete '\n' before) {between : List (List Char)}
    (h : ∀ line ∈ between, '\n' ∉ line ∧ '\r' ∉ line) (after : List Char) :
    lines (before ++ (between.flatMap (· ++ ['\n']) ++ after)) =
      lines before ++ (between ++ lines after) := by
  induction between generalizing before with
  | nil =>
    rw [List.flatMap_nil, List.nil_append, List.nil_append, lines, splitInclusive_append hb,
      List.map_append]
    rfl
  | cons line between ih =>
    rw [List.forall_mem_cons] at h
    have hline : Complete '\n' (before ++ (line ++ ['\n'])) := hb.append (complete_concat line '\n')
    have hwhole := lines_append hb h.1.1 h.1.2 []
    have hrest := ih hline h.2
    rw [hwhole] at hrest
    rw [List.flatMap_cons, List.append_assoc, ← List.append_assoc before, hrest, List.append_assoc]
    rfl

def EndsLine (text : String) : Prop := text.toList.getLast? = some '\n'

theorem EndsLine.append_left {last : String} (h : EndsLine last) (before : String) :
    EndsLine (before ++ last) := by
  rw [EndsLine, String.toList_append, List.getLast?_append, h, Option.some_or]

theorem EndsLine.complete {text : String} (h : EndsLine text) : Complete '\n' text.toList := .inr h

theorem Complete.string_append {text text' : String} (h : Complete '\n' text.toList)
    (h' : Complete '\n' text'.toList) : Complete '\n' (text ++ text').toList := by
  rw [String.toList_append]
  exact h.append h'

theorem Complete.join {render : α → String} (h : ∀ item, Complete '\n' (render item).toList)
    (items : List α) : Complete '\n' (String.join (items.map render)).toList := by
  rw [String.toList_join, List.flatMap_map]
  exact .flatMap fun item _ => h item

/-- Lines, each with the break that ends it. -/
def unlines (lines : List String) : String := String.join (lines.map (· ++ "\n"))

theorem unlines_complete (lines : List String) : Complete '\n' (unlines lines).toList := by
  have hbreak : EndsLine "\n" := rfl
  exact .join (fun line => (hbreak.append_left line).complete) lines

theorem toList_unlines (lines : List String) :
    (unlines lines).toList = (lines.map String.toList).flatMap (· ++ ['\n']) := by
  rw [unlines, String.toList_join, List.flatMap_map, List.flatMap_map]
  apply List.flatMap_congr
  intro line _
  exact String.toList_append

/-- A text that neither starts nor ends with white space. -/
structure Trimmed (text : List Char) : Prop where
  head : ∀ c ∈ text.head?, isWhitespace c = false
  last : ∀ c ∈ text.getLast?, isWhitespace c = false

theorem dropWhile_of_head {p : α → Bool} {xs : List α} (h : ∀ x ∈ xs.head?, p x = false) :
    xs.dropWhile p = xs := by
  cases xs with
  | nil => rfl
  | cons x xs =>
    have hx := h x rfl
    rw [List.dropWhile_cons_of_neg]
    rw [hx]
    exact Bool.false_ne_true

/-- Trimming takes off exactly the white space around a text. -/
theorem trim_padded (hbody : Trimmed body) (hlead : ∀ c ∈ lead, isWhitespace c = true)
    (htrail : ∀ c ∈ trail, isWhitespace c = true) : trim (lead ++ (body ++ trail)) = body := by
  have htrail' : ∀ c ∈ trail.reverse, isWhitespace c = true :=
    fun c hc => htrail c (List.mem_reverse.1 hc)
  rw [trim, List.dropWhile_append_of_pos hlead]
  cases body with
  | nil =>
    rw [List.nil_append, List.dropWhile_eq_nil_iff.2 htrail]
    rfl
  | cons c body =>
    have hstart : (c :: body ++ trail).dropWhile isWhitespace = c :: body ++ trail :=
      dropWhile_of_head hbody.head
    rw [hstart, List.reverse_append, List.dropWhile_append_of_pos htrail', dropWhile_of_head,
      List.reverse_reverse]
    rw [List.head?_reverse]
    exact hbody.last

theorem trim_trimmed (h : Trimmed text) : trim text = text := by
  have hpad := trim_padded h (List.forall_mem_nil _) (List.forall_mem_nil _)
  rwa [List.nil_append, List.append_nil] at hpad

theorem exists_padding (text : List Char) :
    ∃ lead trail, (∀ c ∈ lead, isWhitespace c = true) ∧ (∀ c ∈ trail, isWhitespace c = true) ∧
      text = lead ++ (trim text ++ trail) := by
  refine ⟨text.takeWhile isWhitespace,
    (((text.dropWhile isWhitespace).reverse).takeWhile isWhitespace).reverse,
    fun c hc => List.mem_takeWhile_imp hc,
    fun c hc => List.mem_takeWhile_imp (List.mem_reverse.1 hc), ?_⟩
  rw [trim, ← List.reverse_append, List.takeWhile_append_dropWhile, List.reverse_reverse,
    List.takeWhile_append_dropWhile]

theorem mem_trim_of_mem (h : c ∈ text) (hc : isWhitespace c = false) : c ∈ trim text := by
  obtain ⟨lead, trail, hlead, htrail, he⟩ := exists_padding text
  rw [he, List.mem_append, List.mem_append] at h
  rcases h with h | h | h
  · exact absurd (hlead c h) (by simp [hc])
  · exact h
  · exact absurd (htrail c h) (by simp [hc])

theorem trimmed_between (hc : isWhitespace c = false) (hd : isWhitespace d = false)
    (text : List Char) : Trimmed (c :: (text ++ [d])) where
  head := by
    intro x hx
    cases hx
    exact hc
  last := by
    intro x hx
    rw [← List.cons_append, List.getLast?_concat] at hx
    cases hx
    exact hd

theorem trim_is_trimmed (text : List Char) : Trimmed (trim text) := by
  have hstart : ∀ c ∈ (text.dropWhile isWhitespace).head?, isWhitespace c = false := by
    intro c hc
    have hnot := List.head?_dropWhile_not isWhitespace text
    rw [hc] at hnot
    exact hnot
  have hpre : trim text <+: text.dropWhile isWhitespace := by
    rw [trim, ← List.reverse_suffix, List.reverse_reverse]
    exact List.dropWhile_suffix _
  refine ⟨?_, ?_⟩
  · intro c hc
    obtain ⟨tail, htail⟩ := List.head?_eq_some_iff.1 hc
    obtain ⟨rest, hrest⟩ := hpre
    apply hstart c
    rw [← hrest, htail]
    rfl
  · intro c hc
    have hnot := List.head?_dropWhile_not isWhitespace (text.dropWhile isWhitespace).reverse
    rw [trim, List.getLast?_reverse] at hc
    rw [hc] at hnot
    exact hnot

theorem splitOnce_eq_some [DecidableEq α] {sep : α} {text before after : List α}
    (h : splitOnce sep text = some (before, after)) : text = before ++ sep :: after := by
  induction text generalizing before with
  | nil => cases h
  | cons x text ih =>
    rw [splitOnce] at h
    split at h
    case isTrue hx =>
      cases h
      rw [hx]
      rfl
    case isFalse =>
      obtain ⟨⟨before', after'⟩, hsplit, he⟩ := Option.map_eq_some_iff.1 h
      cases he
      rw [ih hsplit]
      rfl

theorem splitOnce_append [DecidableEq α] {sep : α} {before : List α} (h : sep ∉ before)
    (after : List α) : splitOnce sep (before ++ sep :: after) = some (before, after) := by
  induction before with
  | nil => rw [List.nil_append, splitOnce, if_pos rfl]
  | cons x before ih =>
    rw [List.mem_cons, not_or] at h
    rw [List.cons_append, splitOnce, if_neg (Ne.symm h.1), ih h.2]
    rfl

/-- A line as it is read back: a carriage return at its end is taken for part of the line break. -/
theorem lines_line_append (hn : '\n' ∉ line) (after : List Char) :
    lines (line ++ '\n' :: after) = (stripSuffix '\r' line).getD line :: lines after := by
  rw [lines, splitInclusive_piece hn, List.map_cons, stripLineEnd, stripSuffix_concat]
  rfl

end Text
