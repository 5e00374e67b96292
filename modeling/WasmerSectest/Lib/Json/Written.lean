import WasmerSectest.Lib.Json.Grammar

namespace Json
set_option autoImplicit true

/-- A value together with a text that spells it. -/
structure Written where
  value : Json
  text : List Char
  spells : Spells (.element value) text

structure Field where
  key : String
  written : Written
  plain : key.toList.all isUnescaped = true := by decide

@[simp] def Field.text (field : Field) : List Char :=
  '"' :: (field.key.toList ++ '"' :: ':' :: ' ' :: field.written.text)

/-- Where the white space stands around the items of an array or an object. -/
structure Spacing where
  opening : String := ""
  between : String := ""
  closing : String := ""
  blank : IsWhitespace opening.toList ∧ IsWhitespace between.toList ∧
    IsWhitespace closing.toList := by decide

namespace Spacing

@[simps opening between closing]
def tight : Spacing where

@[simps opening between closing]
def spaced : Spacing where
  between := " "

end Spacing

@[simp] def Spacing.surround (spacing : Spacing) (texts : List (List Char)) : List Char :=
  spacing.opening.toList ++
    ((',' :: spacing.between.toList).intercalate texts ++ spacing.closing.toList)

theorem spells_elements (hw : IsWhitespace w) (first : Written) (rest : List Written) :
    Spells (.elements ((first :: rest).map Written.value))
      ((',' :: w).intercalate ((first :: rest).map Written.text)) := by
  induction rest generalizing first with
  | nil =>
    simp only [List.map_cons, List.map_nil, List.intercalate_singleton]
    exact .lastElement first.spells
  | cons second rest ih =>
    have htail := (ih second).indent hw nofun
    simp only [List.map_cons, List.intercalate_cons_cons, List.append_assoc]
    exact .moreElements first.spells htail

theorem Field.spells (field : Field) :
    Spells (.member field.key field.written.value) field.text := by
  have hkey : Chars field.key.toList field.key.toList :=
    chars_self (List.all_eq_true.1 field.plain)
  have hvalue := field.written.spells.indent (w := [' ']) (by decide) nofun
  have hmember := Spells.member whitespace_nil hkey whitespace_nil hvalue
  rwa [String.ofList_toList] at hmember

theorem spells_members (hw : IsWhitespace w) (first : Field) (rest : List Field) :
    Spells (.members ((first :: rest).map fun field => (field.key, field.written.value)))
      ((',' :: w).intercalate ((first :: rest).map Field.text)) := by
  induction rest generalizing first with
  | nil =>
    simp only [List.map_cons, List.map_nil, List.intercalate_singleton]
    exact .lastMember first.spells
  | cons second rest ih =>
    have htail := (ih second).indent hw nofun
    simp only [List.map_cons, List.intercalate_cons_cons, List.append_assoc]
    exact .moreMembers first.spells htail

namespace Written

@[simps value text]
def indented (written : Written) (pad : String)
    (h : IsWhitespace pad.toList := by decide) : Written where
  value := written.value
  text := pad.toList ++ written.text
  spells := written.spells.indent h nofun

@[simps value text]
def arr (spacing : Spacing) (write : α → Written) (items : List α) : Written where
  value := .arr (items.map fun item => (write item).value)
  text := '[' :: (spacing.surround (items.map fun item => (write item).text) ++ [']'])
  spells := by
    obtain ⟨opening, between, closing⟩ := spacing.blank
    apply Spells.padded
    cases items with
    | nil => exact .emptyArr (opening.append closing)
    | cons first rest =>
      have helements := spells_elements between (write first) (rest.map write)
      simp only [List.map_cons, List.map_map] at helements
      exact .arr ((helements.outdent closing nofun).indent opening nofun)

@[simps value text]
def obj (spacing : Spacing) (fields : List Field) : Written where
  value := .obj (fields.map fun field => (field.key, field.written.value))
  text := '{' :: (spacing.surround (fields.map Field.text) ++ ['}'])
  spells := by
    obtain ⟨opening, between, closing⟩ := spacing.blank
    apply Spells.padded
    cases fields with
    | nil => exact .emptyObj (opening.append closing)
    | cons first rest =>
      have hmembers := spells_members between first rest
      exact .obj ((hmembers.outdent closing nofun).indent opening nofun)

@[simps value text]
def quoted (s : String) (text : List Char) (h : Chars text s.toList) : Written where
  value := .str s
  text := '"' :: (text ++ ['"'])
  spells := by
    have hstr := Spells.str h
    rw [String.ofList_toList] at hstr
    exact hstr.padded

@[simps value text]
def plain (s : String) (h : s.toList.all isUnescaped = true := by decide) : Written where
  value := .str s
  text := '"' :: (s.toList ++ ['"'])
  spells := (quoted s s.toList (chars_self (List.all_eq_true.1 h))).spells

@[simps value text]
def null : Written where
  value := .null
  text := "null".toList
  spells := .padded (.token rfl)

@[simps value text]
def bool (b : Bool) : Written where
  value := .bool b
  text := (toString b).toList
  spells := by
    apply Spells.padded
    cases b <;> exact .token rfl

end Written

theorem numeral_digit : ∀ d < 10, 0 < d → Numeral.next .start d.digitChar = some .int := by
  decide

theorem numeral_toDigits (h : 0 < n) :
    (Nat.toDigits 10 n).foldlM Numeral.next .start = some .int := by
  induction n using Nat.strongRecOn with
  | ind n ih =>
    by_cases hlt : n < 10
    · rw [Nat.toDigits_of_lt_base hlt, List.foldlM_cons, numeral_digit n hlt h]
      rfl
    · have hle : 10 ≤ n := Nat.le_of_not_lt hlt
      have hlt : n % 10 < 10 := Nat.mod_lt n (by decide)
      have hdigit : Numeral.next .int (n % 10).digitChar = some .int :=
        if_pos (Nat.isDigit_digitChar.trans (decide_eq_true hlt))
      rw [Nat.toDigits_of_base_le (by decide) hle, List.foldlM_append,
        ih (n / 10) (by omega) (by omega), Option.bind_eq_bind, Option.bind_some,
        List.foldlM_cons, hdigit]
      rfl

theorem isNumeral_toDigits (n : Nat) : isNumeral (Nat.toDigits 10 n) = true := by
  cases n with
  | zero => rfl
  | succ n =>
    rw [isNumeral, numeral_toDigits n.succ_pos]
    rfl

theorem tokenValue_toString (n : Nat) :
    tokenValue (toString n).toList = some (.num (toString n)) := by
  have htext : (toString n).toList = Nat.toDigits 10 n := Nat.toList_repr
  have hnot {c : Char} (cs : List Char) (hc : c.isDigit = false) :
      Nat.toDigits 10 n ≠ c :: cs := by
    intro he
    have hmem : c ∈ Nat.toDigits 10 n := he ▸ List.mem_cons_self
    exact Bool.false_ne_true (hc.symm.trans
      (Nat.isDigit_of_mem_toDigits (by decide) (by decide) hmem))
  rw [tokenValue, htext, if_neg (hnot _ rfl), if_neg (hnot _ rfl), if_neg (hnot _ rfl),
    if_pos (isNumeral_toDigits n), ← htext, String.ofList_toList]

def nat (n : Nat) : Json := .num (toString n)

@[simps value text]
def Written.nat (n : Nat) : Written where
  value := .nat n
  text := (toString n).toList
  spells := .padded (.token (tokenValue_toString n))

/-- A text that is written as a value and ends with white space is a document of it. -/
theorem Written.document (written : Written) {text : String} (hw : IsWhitespace w)
    (h : text.toList = written.text ++ w) : Document text written.value := by
  rw [Document, h]
  exact written.spells.outdent hw nofun

end Json
