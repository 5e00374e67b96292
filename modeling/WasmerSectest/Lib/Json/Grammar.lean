import Mathlib

/-- A JSON value; a number is kept as it is written. -/
inductive Json where
  | null
  | bool (value : Bool)
  | num (literal : String)
  | str (value : String)
  | arr (elements : List Json)
  | obj (members : List (String × Json))

namespace Json
set_option autoImplicit true

def get? (key : String) : Json → Option Json
  | .obj members => (members.find? (·.1 = key)).map Prod.snd
  | _ => none

def str? : Json → Option String
  | .str value => some value
  | _ => none

def bool? : Json → Option Bool
  | .bool value => some value
  | _ => none

def isWhitespace (c : Char) : Bool := c = ' ' || c = '\t' || c = '\n' || c = '\r'

def isStructural (c : Char) : Bool :=
  c = '[' || c = '{' || c = ']' || c = '}' || c = ':' || c = ',' || c = '"'

def IsWhitespace (text : List Char) : Prop := ∀ c ∈ text, isWhitespace c = true

instance (text : List Char) : Decidable (IsWhitespace text) :=
  List.decidableBAll (fun c => isWhitespace c = true) text

def isUnescaped (c : Char) : Bool := 0x20 ≤ c.toNat && c != '"' && c != '\\'

def escapedChar : Char → Option Char
  | '"' => some '"'
  | '\\' => some '\\'
  | '/' => some '/'
  | 'b' => some '\x08'
  | 'f' => some '\x0c'
  | 'n' => some '\n'
  | 'r' => some '\r'
  | 't' => some '\t'
  | _ => none

def hexDigit (c : Char) : Option Nat :=
  if '0'.toNat ≤ c.toNat ∧ c.toNat ≤ '9'.toNat then some (c.toNat - '0'.toNat)
  else if 'a'.toNat ≤ c.toNat ∧ c.toNat ≤ 'f'.toNat then some (c.toNat - 'a'.toNat + 10)
  else if 'A'.toNat ≤ c.toNat ∧ c.toNat ≤ 'F'.toNat then some (c.toNat - 'A'.toNat + 10)
  else none

def codeUnit (a b c d : Char) : Option Nat := do
  pure (((← hexDigit a) * 16 + (← hexDigit b)) * 256 + (← hexDigit c) * 16 + (← hexDigit d))

def scalar (unit : Nat) : Option Char :=
  if unit.isValidChar then some (Char.ofNat unit) else none

def surrogates (high low : Nat) : Option Char :=
  if 0xd800 ≤ high ∧ high < 0xdc00 ∧ 0xdc00 ≤ low ∧ low < 0xe000 then
    some (Char.ofNat (0x10000 + (high - 0xd800) * 0x400 + (low - 0xdc00)))
  else none

/-- The character that a piece of a string stands for; a surrogate only counts in a pair. -/
def pieceChar : List Char → Option Char
  | [c] => if isUnescaped c then some c else none
  | ['\\', c] => escapedChar c
  | ['\\', 'u', a, b, c, d] => (codeUnit a b c d).bind scalar
  | ['\\', 'u', a, b, c, d, '\\', 'u', a', b', c', d'] => do
    surrogates (← codeUnit a b c d) (← codeUnit a' b' c' d')
  | _ => none

/-- The text between the quotes of a string, and what it stands for. -/
inductive Chars : List Char → List Char → Prop where
  | nil : Chars [] []
  | cons (h : pieceChar piece = some c) (rest : Chars text cs) : Chars (piece ++ text) (c :: cs)

inductive Numeral where
  | start
  | minus
  | zero
  | int
  | point
  | frac
  | exp
  | sign
  | expInt
  deriving DecidableEq

/-- `[minus] int [frac] [exp]`, one character at a time. -/
def Numeral.next : Numeral → Char → Option Numeral
  | start, c =>
    if c = '-' then some minus
    else if c = '0' then some zero
    else if c.isDigit then some int
    else none
  | minus, c => if c = '0' then some zero else if c.isDigit then some int else none
  | zero, c =>
    if c = '.' then some point else if c = 'e' || c = 'E' then some exp else none
  | int, c =>
    if c.isDigit then some int
    else if c = '.' then some point
    else if c = 'e' || c = 'E' then some exp
    else none
  | point, c => if c.isDigit then some frac else none
  | frac, c => if c.isDigit then some frac else if c = 'e' || c = 'E' then some exp else none
  | exp, c =>
    if c = '+' || c = '-' then some sign else if c.isDigit then some expInt else none
  | sign, c => if c.isDigit then some expInt else none
  | expInt, c => if c.isDigit then some expInt else none

def Numeral.complete : Numeral → Bool
  | zero | int | frac | expInt => true
  | start | minus | point | exp | sign => false

def isNumeral (text : List Char) : Bool :=
  ((text.foldlM Numeral.next .start).map Numeral.complete).getD false

/-- The value of a word without quotes or brackets. -/
def tokenValue (text : List Char) : Option Json :=
  if text = ['n', 'u', 'l', 'l'] then some .null
  else if text = ['t', 'r', 'u', 'e'] then some (.bool true)
  else if text = ['f', 'a', 'l', 's', 'e'] then some (.bool false)
  else if isNumeral text then some (.num (.ofList text))
  else none

inductive Phrase where
  | value (value : Json)
  | element (value : Json)
  | elements (values : List Json)
  | member (key : String) (value : Json)
  | members (members : List (String × Json))

/-- The grammar of RFC 8259, with what each phrase stands for. -/
inductive Spells : Phrase → List Char → Prop where
  | token (h : tokenValue text = some v) : Spells (.value v) text
  | str (h : Chars text cs) : Spells (.value (.str (.ofList cs))) ('"' :: (text ++ ['"']))
  | emptyArr (hw : IsWhitespace w) : Spells (.value (.arr [])) ('[' :: (w ++ [']']))
  | arr (h : Spells (.elements vs) text) : Spells (.value (.arr vs)) ('[' :: (text ++ [']']))
  | emptyObj (hw : IsWhitespace w) : Spells (.value (.obj [])) ('{' :: (w ++ ['}']))
  | obj (h : Spells (.members ms) text) : Spells (.value (.obj ms)) ('{' :: (text ++ ['}']))
  | element (hw : IsWhitespace w) (h : Spells (.value v) text) (hw' : IsWhitespace w') :
    Spells (.element v) (w ++ (text ++ w'))
  | lastElement (h : Spells (.element v) text) : Spells (.elements [v]) text
  | moreElements (h : Spells (.element v) text) (hs : Spells (.elements vs) texts) :
    Spells (.elements (v :: vs)) (text ++ ',' :: texts)
  | member (hw : IsWhitespace w) (hk : Chars text cs) (hw' : IsWhitespace w')
    (h : Spells (.element v) text') :
    Spells (.member (.ofList cs) v) (w ++ '"' :: (text ++ '"' :: (w' ++ ':' :: text')))
  | lastMember (h : Spells (.member k v) text) : Spells (.members [(k, v)]) text
  | moreMembers (h : Spells (.member k v) text) (hs : Spells (.members ms) texts) :
    Spells (.members ((k, v) :: ms)) (text ++ ',' :: texts)

/-- The text is a JSON document of this value. -/
def Document (text : String) (value : Json) : Prop := Spells (.element value) text.toList

theorem whitespace_nil : IsWhitespace [] := nofun

theorem IsWhitespace.append (h : IsWhitespace w) (h' : IsWhitespace w') :
    IsWhitespace (w ++ w') := by
  intro c hc
  rcases List.mem_append.1 hc with hc | hc
  · exact h c hc
  · exact h' c hc

theorem Chars.append (h : Chars text cs) (h' : Chars text' cs') :
    Chars (text ++ text') (cs ++ cs') := by
  induction h with
  | nil => exact h'
  | cons hp _ ih =>
    rw [List.append_assoc]
    exact .cons hp ih

/-- Writing every character as a piece of its own spells the string. -/
theorem chars_flatMap (h : ∀ c, pieceChar (piece c) = some c) (cs : List Char) :
    Chars (cs.flatMap piece) cs := by
  induction cs with
  | nil => exact .nil
  | cons c cs ih => exact .cons (h c) ih

theorem chars_self (h : ∀ c ∈ cs, isUnescaped c = true) : Chars cs cs := by
  induction cs with
  | nil => exact .nil
  | cons c cs ih =>
    have hc : pieceChar [c] = some c := if_pos (h c List.mem_cons_self)
    exact .cons hc (ih fun d hd => h d (List.mem_cons_of_mem c hd))

theorem codeUnit_digits (h : codeUnit a b c d = some n) :
    ∀ e ∈ [a, b, c, d], hexDigit e ≠ none := by
  simp only [codeUnit, Option.bind_eq_bind, Option.bind_eq_some_iff] at h
  obtain ⟨na, ha, nb, hb, nc, hc, nd, hd, -⟩ := h
  simp [ha, hb, hc, hd]

theorem pieceChar_cases (h : pieceChar piece = some c) :
    (piece = [c] ∧ isUnescaped c = true) ∨ ∃ e rest, piece = '\\' :: e :: rest := by
  rw [pieceChar.eq_def] at h
  split at h
  case h_1 d =>
    by_cases hd : isUnescaped d = true
    · rw [if_pos hd] at h
      obtain rfl := Option.some.inj h
      exact .inl ⟨rfl, hd⟩
    · rw [if_neg hd] at h
      cases h
  case h_2 | h_3 | h_4 => exact .inr ⟨_, _, rfl⟩
  case h_5 => cases h

theorem pieceChar_quote (h : pieceChar piece = some c) (hq : '"' ∈ piece) :
    piece = ['\\', '"'] ∧ c = '"' := by
  have hquote : hexDigit '"' = none := rfl
  rw [pieceChar.eq_def] at h
  split at h
  case h_1 d =>
    obtain rfl := List.mem_singleton.1 hq
    cases h
  case h_2 d =>
    obtain rfl : '"' = d := by simpa using hq
    exact ⟨rfl, (Option.some.inj h).symm⟩
  case h_3 a b c d =>
    obtain ⟨unit, hunit, -⟩ := Option.bind_eq_some_iff.1 h
    have hmem : '"' ∈ [a, b, c, d] := by simpa using hq
    exact absurd hquote (codeUnit_digits hunit '"' hmem)
  case h_4 a b c d a' b' c' d' =>
    simp only [Option.bind_eq_bind, Option.bind_eq_some_iff] at h
    obtain ⟨high, hhigh, low, hlow, -⟩ := h
    have hmem : '"' ∈ [a, b, c, d] ∨ '"' ∈ [a', b', c', d'] := by
      simpa [or_assoc] using hq
    rcases hmem with hmem | hmem
    · exact absurd hquote (codeUnit_digits hhigh '"' hmem)
    · exact absurd hquote (codeUnit_digits hlow '"' hmem)
  case h_5 => cases h

theorem Chars.length_le (h : Chars text cs) : cs.length ≤ text.length := by
  induction h with
  | nil => exact Nat.le_refl _
  | cons hp _ ih =>
    rcases pieceChar_cases hp with ⟨rfl, -⟩ | ⟨e, rest, rfl⟩
    · simpa using ih
    · simp only [List.cons_append, List.length_cons, List.length_append]
      omega

theorem Chars.unescaped (h : Chars text cs) (hle : text.length ≤ cs.length) :
    ∀ c ∈ cs, isUnescaped c = true := by
  induction h with
  | nil => exact nofun
  | cons hp hrest ih =>
    rcases pieceChar_cases hp with ⟨rfl, hc⟩ | ⟨e, rest, rfl⟩
    · have htail := ih (by simpa using hle)
      intro d hd
      rcases List.mem_cons.1 hd with rfl | hd
      · exact hc
      · exact htail d hd
    · have hlen := hrest.length_le
      simp only [List.cons_append, List.length_cons, List.length_append] at hle
      omega

theorem Chars.of_no_backslash (h : Chars text cs) (hno : '\\' ∉ text) : cs = text := by
  induction h with
  | nil => rfl
  | cons hp _ ih =>
    rcases pieceChar_cases hp with ⟨rfl, -⟩ | ⟨e, rest, rfl⟩
    · exact congrArg _ (ih fun hmem => hno (List.mem_cons_of_mem _ hmem))
    · exact absurd List.mem_cons_self hno

theorem Chars.quote (h : Chars text cs) (he : text = left ++ '"' :: right) :
    ∃ init cs₁ cs₂, left = init ++ ['\\'] ∧ cs = cs₁ ++ '"' :: cs₂ ∧ Chars right cs₂ := by
  induction h generalizing left with
  | nil => exact absurd he.symm (by simp)
  | cons hp hrest ih =>
    rename_i piece c text cs
    rcases List.append_eq_append_iff.1 he with ⟨mid, rfl, hmid⟩ | ⟨mid, rfl, hmid⟩
    · obtain ⟨init, cs₁, cs₂, rfl, rfl, hright⟩ := ih hmid
      exact ⟨piece ++ init, c :: cs₁, cs₂, (List.append_assoc ..).symm, rfl, hright⟩
    · cases mid with
      | nil =>
        have htext : text = [] ++ '"' :: right := hmid.symm
        obtain ⟨init, cs₁, cs₂, hinit, -, -⟩ := ih htext
        simp at hinit
      | cons d mid =>
        obtain ⟨rfl, hright⟩ := List.cons.inj hmid
        obtain ⟨hpiece, rfl⟩ := pieceChar_quote hp (by simp)
        obtain ⟨rfl, rfl⟩ : left = ['\\'] ∧ mid = [] := by
          match left with
          | [] => cases hpiece
          | [e] => exact ⟨congrArg (· :: []) (List.cons.inj hpiece).1,
              (List.cons.inj (List.cons.inj hpiece).2).2⟩
          | e :: f :: rest => simp at hpiece
        exact ⟨[], [], cs, rfl, rfl, hright ▸ hrest⟩

/-- What spells a string cannot go on past a quote without a backslash before it. -/
theorem Chars.length_le_of_quote (h : Chars text cs)
    (he : text ++ '"' :: post = left ++ '"' :: right) (hlast : left.getLast? ≠ some '\\') :
    text.length ≤ left.length := by
  rcases List.append_eq_append_iff.1 he with ⟨mid, rfl, -⟩ | ⟨mid, rfl, hmid⟩
  · rw [List.length_append]
    exact Nat.le_add_right _ _
  · cases mid with
    | nil =>
      rw [List.append_nil]
    | cons c mid =>
      obtain ⟨rfl, -⟩ := List.cons.inj hmid
      obtain ⟨init, -, -, rfl, -, -⟩ := h.quote rfl
      rw [List.getLast?_concat] at hlast
      exact absurd rfl hlast

theorem append_cons_cases {mark : α} (hno : mark ∉ before)
    (he : before ++ mark :: after = left ++ mark :: right) :
    (left = before ∧ after = right) ∨
      ∃ mid, left = before ++ mark :: mid ∧ after = mid ++ mark :: right := by
  rcases List.append_eq_append_iff.1 he with ⟨mid, rfl, hmid⟩ | ⟨mid, rfl, hmid⟩
  · cases mid with
    | nil =>
      obtain ⟨-, rfl⟩ := List.cons.inj hmid
      exact .inl ⟨List.append_nil _, rfl⟩
    | cons c mid =>
      obtain ⟨rfl, rfl⟩ := List.cons.inj hmid
      exact .inr ⟨mid, rfl, rfl⟩
  · cases mid with
    | nil =>
      obtain ⟨-, rfl⟩ := List.cons.inj hmid
      exact .inl ⟨(List.append_nil _).symm, rfl⟩
    | cons c mid =>
      obtain ⟨rfl, -⟩ := List.cons.inj hmid
      exact absurd (List.mem_append_right _ List.mem_cons_self) hno

theorem Chars.no_quote (h : Chars text cs) (hno : '"' ∉ cs) : '"' ∉ text := by
  intro hmem
  obtain ⟨left, right, he⟩ := List.append_of_mem hmem
  obtain ⟨-, cs₁, cs₂, -, rfl, -⟩ := h.quote he
  exact hno (by simp)

theorem Spells.padded (h : Spells (.value v) text) : Spells (.element v) text := by
  have hpad := Spells.element whitespace_nil h whitespace_nil
  rwa [List.nil_append, List.append_nil] at hpad

theorem Spells.indent (hw : IsWhitespace w) (h : Spells phrase text)
    (hne : ∀ v, phrase ≠ .value v) : Spells phrase (w ++ text) := by
  induction h with
  | token | str | emptyArr | arr | emptyObj | obj => exact absurd rfl (hne _)
  | element hw₁ h hw₂ =>
    rw [← List.append_assoc]
    exact .element (hw.append hw₁) h hw₂
  | lastElement _ ih => exact .lastElement (ih nofun)
  | moreElements _ hs ih =>
    rw [← List.append_assoc]
    exact .moreElements (ih nofun) hs
  | member hw₁ hk hw₂ h =>
    rw [← List.append_assoc]
    exact .member (hw.append hw₁) hk hw₂ h
  | lastMember _ ih => exact .lastMember (ih nofun)
  | moreMembers _ hs ih =>
    rw [← List.append_assoc]
    exact .moreMembers (ih nofun) hs

theorem Spells.outdent (h : Spells phrase text) (hw : IsWhitespace w)
    (hne : ∀ v, phrase ≠ .value v) : Spells phrase (text ++ w) := by
  induction h with
  | token | str | emptyArr | arr | emptyObj | obj => exact absurd rfl (hne _)
  | element hw₁ h hw₂ =>
    rw [List.append_assoc, List.append_assoc]
    exact .element hw₁ h (hw₂.append hw)
  | lastElement _ ih => exact .lastElement (ih nofun)
  | moreElements h _ _ ih =>
    rw [List.append_assoc]
    exact .moreElements h (ih nofun)
  | member hw₁ hk hw₂ _ ih =>
    have happ := Spells.member hw₁ hk hw₂ (ih nofun)
    simpa only [List.append_assoc, List.cons_append] using happ
  | lastMember _ ih => exact .lastMember (ih nofun)
  | moreMembers h _ _ ih =>
    rw [List.append_assoc]
    exact .moreMembers h (ih nofun)

end Json
