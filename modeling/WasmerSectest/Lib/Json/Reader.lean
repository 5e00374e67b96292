import WasmerSectest.Lib.Json.Grammar

namespace Json
set_option autoImplicit true

/-- An array or object whose end has not been read. -/
inductive Frame where
  | element (read : List Json)
  | member (read : List (String × Json)) (key : String)

/-- What a string is read for. -/
inductive Target where
  | value
  | key (read : List (String × Json))

inductive State where
  | value (stack : List Frame)
  | key (stack : List Frame) (read : List (String × Json))
  | colon (stack : List Frame) (read : List (String × Json)) (key : String)
  | string (stack : List Frame) (target : Target) (chars piece : List Char)
  | token (stack : List Frame) (text : List Char)
  | after (stack : List Frame) (value : Json)

def isDelimiter (c : Char) : Bool := isWhitespace c || isStructural c

namespace State

def closeEmpty : List Frame → Option State
  | .element [] :: stack => some (.after stack (.arr []))
  | _ => none

def stepAfter (stack : List Frame) (v : Json) (c : Char) : Option State :=
  if isWhitespace c then some (.after stack v)
  else
    match stack with
    | .element vs :: stack =>
      if c = ',' then some (.value (.element (vs ++ [v]) :: stack))
      else if c = ']' then some (.after stack (.arr (vs ++ [v])))
      else none
    | .member ms k :: stack =>
      if c = ',' then some (.key stack (ms ++ [(k, v)]))
      else if c = '}' then some (.after stack (.obj (ms ++ [(k, v)])))
      else none
    | [] => none

def endString (stack : List Frame) (cs : List Char) : Target → State
  | .value => .after stack (.str (.ofList cs))
  | .key ms => .colon stack ms (.ofList cs)

def step : State → Char → Option State
  | .value stack, c =>
    if isWhitespace c then some (.value stack)
    else if c = '"' then some (.string stack .value [] [])
    else if c = '[' then some (.value (.element [] :: stack))
    else if c = '{' then some (.key stack [])
    else if c = ']' then closeEmpty stack
    else if isStructural c then none
    else some (.token stack [c])
  | .key stack ms, c =>
    if isWhitespace c then some (.key stack ms)
    else if c = '"' then some (.string stack (.key ms) [] [])
    else if c = '}' && ms.isEmpty then some (.after stack (.obj []))
    else none
  | .colon stack ms k, c =>
    if isWhitespace c then some (.colon stack ms k)
    else if c = ':' then some (.value (.member ms k :: stack))
    else none
  | .string stack target cs piece, c =>
    if piece = [] ∧ c = '"' then some (endString stack cs target)
    else
      match pieceChar (piece ++ [c]) with
      | some d => some (.string stack target (cs ++ [d]) [])
      | none => some (.string stack target cs (piece ++ [c]))
  | .token stack text, c =>
    if isDelimiter c then (tokenValue text).bind (stepAfter stack · c)
    else some (.token stack (text ++ [c]))
  | .after stack v, c => stepAfter stack v c

def result : State → Option Json
  | .after [] v => some v
  | .token [] text => tokenValue text
  | _ => none

/-- Read the rest of a document, one character at a time. -/
def read (state : State) : List Char → Option Json
  | [] => state.result
  | c :: text => (state.step c).bind (read · text)

theorem read_step (h : step state c = some next) (text : List Char) :
    read state (c :: text) = read next text := by
  rw [read, h]
  rfl

theorem read_whitespace (hskip : ∀ c, isWhitespace c = true → step state c = some state)
    (hw : IsWhitespace w) (text : List Char) : read state (w ++ text) = read state text := by
  induction w with
  | nil => rfl
  | cons c w ih =>
    rw [List.cons_append, read_step (hskip c (hw c List.mem_cons_self)),
      ih fun d hd => hw d (List.mem_cons_of_mem c hd)]

theorem value_skips (c : Char) (h : isWhitespace c = true) :
    step (.value stack) c = some (.value stack) := if_pos h

theorem key_skips (c : Char) (h : isWhitespace c = true) :
    step (.key stack ms) c = some (.key stack ms) := if_pos h

theorem colon_skips (c : Char) (h : isWhitespace c = true) :
    step (.colon stack ms k) c = some (.colon stack ms k) := if_pos h

theorem after_skips (c : Char) (h : isWhitespace c = true) :
    step (.after stack v) c = some (.after stack v) := if_pos h

theorem step_pending (hopen : ¬(piece = [] ∧ c = '"')) (h : pieceChar (piece ++ [c]) = none) :
    step (.string stack target cs piece) c = some (.string stack target cs (piece ++ [c])) := by
  rw [step, if_neg hopen, h]

theorem step_piece (hopen : ¬(piece = [] ∧ c = '"')) (h : pieceChar (piece ++ [c]) = some d) :
    step (.string stack target cs piece) c = some (.string stack target (cs ++ [d]) []) := by
  rw [step, if_neg hopen, h]

theorem read_pending (p : Char) (piece : List Char)
    (h : pieceChar (p :: piece ++ [c]) = none) (text : List Char) :
    read (.string stack target cs (p :: piece)) (c :: text) =
      read (.string stack target cs (p :: piece ++ [c])) text :=
  read_step (step_pending (fun he => List.cons_ne_nil p piece he.1) h) text

theorem read_piece_end (p : Char) (piece : List Char)
    (h : pieceChar (p :: piece ++ [c]) = some d) (text : List Char) :
    read (.string stack target cs (p :: piece)) (c :: text) =
      read (.string stack target (cs ++ [d]) []) text :=
  read_step (step_piece (fun he => List.cons_ne_nil p piece he.1) h) text

theorem scalar_none_of_surrogates (h : surrogates high low = some c) : scalar high = none := by
  rw [surrogates] at h
  split at h
  case isFalse => cases h
  case isTrue hrange =>
    apply if_neg
    rw [Nat.isValidChar]
    omega

theorem read_escape (text : List Char) :
    read (.string stack target cs []) ('\\' :: text) =
      read (.string stack target cs ['\\']) text :=
  read_step (step_pending (fun he => absurd he.2 (by decide)) rfl) text

theorem read_unicode (stack : List Frame) (target : Target) (cs : List Char) (a b c : Char)
    (text : List Char) :
    read (.string stack target cs []) ('\\' :: 'u' :: a :: b :: c :: text) =
      read (.string stack target cs ['\\', 'u', a, b, c]) text := by
  let state (piece : List Char) : State := .string stack target cs piece
  calc
    _ = read (state ['\\']) ('u' :: a :: b :: c :: text) := read_escape _
    _ = read (state ['\\', 'u']) (a :: b :: c :: text) := read_pending '\\' [] rfl _
    _ = read (state ['\\', 'u', a]) (b :: c :: text) := read_pending '\\' ['u'] rfl _
    _ = read (state ['\\', 'u', a, b]) (c :: text) := read_pending '\\' ['u', a] rfl _
    _ = read (state ['\\', 'u', a, b, c]) text := read_pending '\\' ['u', a, b] rfl _

theorem read_pair (stack : List Frame) (target : Target) (cs : List Char)
    (a b c d a' b' c' : Char) (h : pieceChar ['\\', 'u', a, b, c, d] = none)
    (text : List Char) :
    read (.string stack target cs ['\\', 'u', a, b, c])
        (d :: '\\' :: 'u' :: a' :: b' :: c' :: text) =
      read (.string stack target cs ['\\', 'u', a, b, c, d, '\\', 'u', a', b', c']) text := by
  let state (piece : List Char) : State :=
    .string stack target cs ('\\' :: ('u' :: a :: b :: c :: piece))
  calc
    _ = read (state [d]) ('\\' :: 'u' :: a' :: b' :: c' :: text) :=
      read_pending '\\' ['u', a, b, c] h _
    _ = read (state [d, '\\']) ('u' :: a' :: b' :: c' :: text) :=
      read_pending '\\' ['u', a, b, c, d] rfl _
    _ = read (state [d, '\\', 'u']) (a' :: b' :: c' :: text) :=
      read_pending '\\' ['u', a, b, c, d, '\\'] rfl _
    _ = read (state [d, '\\', 'u', a']) (b' :: c' :: text) :=
      read_pending '\\' ['u', a, b, c, d, '\\', 'u'] rfl _
    _ = read (state [d, '\\', 'u', a', b']) (c' :: text) :=
      read_pending '\\' ['u', a, b, c, d, '\\', 'u', a'] rfl _
    _ = read (state [d, '\\', 'u', a', b', c']) text :=
      read_pending '\\' ['u', a, b, c, d, '\\', 'u', a', b'] rfl _

theorem isUnescaped_ne_quote (h : isUnescaped c = true) : c ≠ '"' := by
  rintro rfl
  exact absurd h (by decide)

theorem read_piece (h : pieceChar piece = some c) (text : List Char) :
    read (.string stack target cs []) (piece ++ text) =
      read (.string stack target (cs ++ [c]) []) text := by
  have hpiece := h
  rw [pieceChar.eq_def] at h
  split at h
  case h_1 d =>
    by_cases hd : isUnescaped d = true
    · exact read_step (step_piece (fun he => isUnescaped_ne_quote hd he.2) hpiece) text
    · rw [if_neg hd] at h
      cases h
  case h_2 d => exact (read_escape _).trans (read_piece_end '\\' [] hpiece text)
  case h_3 a b c d =>
    exact (read_unicode stack target cs a b c _).trans
      (read_piece_end '\\' ['u', a, b, c] hpiece text)
  case h_4 a b c d a' b' c' d' =>
    obtain ⟨high, hhigh, low, -, hpair⟩ : ∃ high, codeUnit a b c d = some high ∧
        ∃ low, codeUnit a' b' c' d' = some low ∧ surrogates high low = some _ := by
      simpa only [Option.bind_eq_bind, Option.bind_eq_some_iff] using h
    have halone : pieceChar ['\\', 'u', a, b, c, d] = none := by
      rw [pieceChar.eq_def]
      change (codeUnit a b c d).bind scalar = none
      rw [hhigh]
      exact scalar_none_of_surrogates hpair
    exact (read_unicode stack target cs a b c _).trans
      ((read_pair stack target cs a b c d a' b' c' halone _).trans
        (read_piece_end '\\' ['u', a, b, c, d, '\\', 'u', a', b', c'] hpiece text))
  case h_5 => cases h

theorem read_chars (h : Chars text cs') (rest : List Char) :
    read (.string stack target cs []) (text ++ rest) =
      read (.string stack target (cs ++ cs') []) rest := by
  induction h generalizing cs with
  | nil => rw [List.append_nil, List.nil_append]
  | cons hp _ ih =>
    rw [List.append_assoc, read_piece hp, ih, List.append_assoc]
    rfl

theorem read_string (h : Chars text cs) (rest : List Char) :
    read (.string stack target [] []) (text ++ '"' :: rest) =
      read (endString stack cs target) rest := by
  rw [read_chars h, List.nil_append]
  have hend : step (.string stack target cs []) '"' = some (endString stack cs target) := by
    rw [step, if_pos ⟨rfl, rfl⟩]
  exact read_step hend rest

theorem next_delimiter (state : Numeral) (h : isDelimiter c = true) : state.next c = none := by
  have hmem : c ∈ [' ', '\t', '\n', '\r', '[', '{', ']', '}', ':', ',', '"'] := by
    simpa [isDelimiter, isWhitespace, isStructural, or_assoc] using h
  revert hmem
  generalize hlist : [' ', '\t', '\n', '\r', '[', '{', ']', '}', ':', ',', '"'] = delimiters
  intro hmem
  have hnone : (delimiters.all fun d => (state.next d).isNone) = true := by
    subst hlist
    cases state <;> decide
  exact Option.isNone_iff_eq_none.1 (List.all_eq_true.1 hnone c hmem)

theorem numeral_chars {text : List Char} (h : text.foldlM Numeral.next start = some last) :
    ∀ c ∈ text, isDelimiter c = false := by
  induction text generalizing start with
  | nil => exact nofun
  | cons c text ih =>
    rw [List.foldlM_cons, Option.bind_eq_bind, Option.bind_eq_some_iff] at h
    obtain ⟨next, hnext, hrest⟩ := h
    have hc : isDelimiter c = false := by
      rw [Bool.eq_false_iff]
      intro hc
      rw [next_delimiter start hc] at hnext
      cases hnext
    intro d hd
    rcases List.mem_cons.1 hd with rfl | hd
    · exact hc
    · exact ih hrest d hd

theorem not_delimiters {text : List Char} (h : (text.all fun c => !isDelimiter c) = true) :
    ∀ c ∈ text, isDelimiter c = false := by
  intro c hc
  have hc := List.all_eq_true.1 h c hc
  rwa [Bool.not_eq_true'] at hc

theorem token_chars (h : tokenValue text = some v) :
    text ≠ [] ∧ ∀ c ∈ text, isDelimiter c = false := by
  rw [tokenValue] at h
  split at h
  case isTrue he => exact ⟨he ▸ List.cons_ne_nil _ _, not_delimiters (he ▸ by decide)⟩
  split at h
  case isTrue he => exact ⟨he ▸ List.cons_ne_nil _ _, not_delimiters (he ▸ by decide)⟩
  split at h
  case isTrue he => exact ⟨he ▸ List.cons_ne_nil _ _, not_delimiters (he ▸ by decide)⟩
  split at h
  case isFalse => cases h
  case isTrue hnum =>
    apply And.intro
    · rintro rfl
      cases hnum
    · rw [isNumeral] at hnum
      cases hfold : text.foldlM Numeral.next .start with
      | none =>
        rw [hfold] at hnum
        cases hnum
      | some last => exact numeral_chars hfold

/-- No word goes on into the text. -/
def Stops (text : List Char) : Prop := ∀ c ∈ text.head?, isDelimiter c = true

theorem Stops.whitespace (hw : IsWhitespace w) (h : Stops text) : Stops (w ++ text) := by
  cases w with
  | nil => exact h
  | cons c w =>
    intro d hd
    obtain rfl := Option.some.inj hd
    rw [isDelimiter, hw c List.mem_cons_self]
    rfl

theorem read_token_chars (h : ∀ c ∈ text, isDelimiter c = false) (rest : List Char) :
    read (.token stack word) (text ++ rest) = read (.token stack (word ++ text)) rest := by
  induction text generalizing word with
  | nil => rw [List.append_nil, List.nil_append]
  | cons c text ih =>
    have hstep : step (.token stack word) c = some (.token stack (word ++ [c])) := by
      rw [step, h c List.mem_cons_self]
      rfl
    rw [List.cons_append, read_step hstep, ih fun d hd => h d (List.mem_cons_of_mem c hd),
      List.append_assoc]
    rfl

theorem read_token_end (h : tokenValue text = some v) (hstops : Stops rest) :
    read (.token stack text) rest = read (.after stack v) rest := by
  cases rest with
  | nil =>
    cases stack with
    | nil => exact h
    | cons frame stack => rfl
  | cons c rest =>
    rw [read, read, step, if_pos (hstops c rfl), h]
    rfl

theorem value_token (h : isDelimiter c = false) :
    step (.value stack) c = some (.token stack [c]) := by
  rw [isDelimiter, Bool.or_eq_false_iff] at h
  obtain ⟨hw, hs⟩ := h
  have hne : ∀ d, isStructural d = true → c ≠ d := by
    rintro d hd rfl
    rw [hd] at hs
    cases hs
  rw [step, if_neg (Bool.eq_false_iff.1 hw), if_neg (hne '"' rfl), if_neg (hne '[' rfl),
    if_neg (hne '{' rfl), if_neg (hne ']' rfl), if_neg (Bool.eq_false_iff.1 hs)]

theorem read_token (h : tokenValue text = some v) (hstops : Stops rest) :
    read (.value stack) (text ++ rest) = read (.after stack v) rest := by
  obtain ⟨hne, hchars⟩ := token_chars h
  cases text with
  | nil => exact absurd rfl hne
  | cons c text =>
    rw [List.cons_append, read_step (value_token (hchars c List.mem_cons_self)),
      read_token_chars (fun d hd => hchars d (List.mem_cons_of_mem c hd))]
    exact read_token_end h hstops

/-- What reading a phrase does, whatever follows it. -/
def PhraseRead : Phrase → List Char → Prop
  | .value v, text | .element v, text => ∀ stack rest, Stops rest →
    read (.value stack) (text ++ rest) = read (.after stack v) rest
  | .elements vs, text => ∀ stack done rest,
    read (.value (.element done :: stack)) (text ++ ']' :: rest) =
      read (.after stack (.arr (done ++ vs))) rest
  | .member k v, text => ∀ stack done rest, Stops rest →
    read (.key stack done) (text ++ rest) = read (.after (.member done k :: stack) v) rest
  | .members ms, text => ∀ stack done rest,
    read (.key stack done) (text ++ '}' :: rest) = read (.after stack (.obj (done ++ ms))) rest

theorem stops_delimiter (h : isDelimiter c = true) (rest : List Char) : Stops (c :: rest) := by
  intro d hd
  obtain rfl := Option.some.inj hd
  exact h

/-- Reading a text arrives where the grammar says. -/
theorem spells_read (h : Spells phrase text) : PhraseRead phrase text := by
  induction h with
  | token h =>
    intro stack rest hstops
    exact read_token h hstops
  | str h =>
    intro stack rest _
    rw [List.cons_append, List.append_assoc, read_step (by rfl), List.singleton_append,
      read_string h]
    rfl
  | emptyArr hw =>
    intro stack rest _
    rw [List.cons_append, List.append_assoc, read_step (by rfl), List.singleton_append,
      read_whitespace value_skips hw, read_step (by rfl)]
  | arr _ ih =>
    intro stack rest _
    rw [List.cons_append, List.append_assoc, read_step (by rfl), List.singleton_append, ih]
    rfl
  | emptyObj hw =>
    intro stack rest _
    rw [List.cons_append, List.append_assoc, read_step (by rfl), List.singleton_append,
      read_whitespace key_skips hw, read_step (by rfl)]
  | obj _ ih =>
    intro stack rest _
    rw [List.cons_append, List.append_assoc, read_step (by rfl), List.singleton_append, ih]
    rfl
  | element hw _ hw' ih =>
    intro stack rest hstops
    rw [List.append_assoc, List.append_assoc, read_whitespace value_skips hw,
      ih stack _ (hstops.whitespace hw'), read_whitespace after_skips hw']
  | lastElement _ ih =>
    intro stack done rest
    rw [ih _ _ (stops_delimiter rfl rest)]
    exact read_step rfl rest
  | moreElements _ _ ih ihs =>
    intro stack done rest
    rw [List.append_assoc, List.cons_append, ih _ _ (stops_delimiter rfl _),
      read_step (by rfl), ihs, List.append_assoc]
    rfl
  | member hw hk hw' _ ih =>
    intro stack done rest hstops
    rw [List.append_assoc, read_whitespace key_skips hw, List.cons_append, read_step (by rfl),
      List.append_assoc, List.cons_append, read_string hk, List.append_assoc, endString,
      read_whitespace colon_skips hw', List.cons_append, read_step (by rfl), ih _ _ hstops]
  | lastMember _ ih =>
    intro stack done rest
    rw [ih _ _ _ (stops_delimiter rfl rest)]
    exact read_step rfl rest
  | moreMembers _ _ ih ihs =>
    intro stack done rest
    rw [List.append_assoc, List.cons_append, ih _ _ _ (stops_delimiter rfl _),
      read_step (by rfl), ihs, List.append_assoc]
    rfl

/-- All that a character can do behind a value. -/
inductive StepAfter (v : Json) (c : Char) : List Frame → State → Prop where
  | skip (hw : isWhitespace c = true) : StepAfter v c stack (.after stack v)
  | nextElement : StepAfter v c (.element vs :: stack) (.value (.element (vs ++ [v]) :: stack))
  | closeArray : StepAfter v c (.element vs :: stack) (.after stack (.arr (vs ++ [v])))
  | nextMember (hc : c = ',') :
    StepAfter v c (.member ms k :: stack) (.key stack (ms ++ [(k, v)]))
  | closeObject : StepAfter v c (.member ms k :: stack) (.after stack (.obj (ms ++ [(k, v)])))

theorem stepAfter_cases (h : stepAfter stack v c = some next) : StepAfter v c stack next := by
  rw [stepAfter.eq_def] at h
  split at h
  case isTrue hw =>
    obtain rfl := Option.some.inj h
    exact .skip hw
  case isFalse =>
    split at h
    case h_1 =>
      split at h
      case isTrue =>
        obtain rfl := Option.some.inj h
        exact .nextElement
      case isFalse =>
        split at h
        case isTrue =>
          obtain rfl := Option.some.inj h
          exact .closeArray
        case isFalse => cases h
    case h_2 =>
      split at h
      case isTrue hc =>
        obtain rfl := Option.some.inj h
        exact .nextMember hc
      case isFalse =>
        split at h
        case isTrue =>
          obtain rfl := Option.some.inj h
          exact .closeObject
        case isFalse => cases h
    case h_3 => cases h

/-- All that a character can do to the reader. -/
inductive Step (c : Char) : State → State → Prop where
  | skipValue (hw : isWhitespace c = true) : Step c (.value stack) (.value stack)
  | openString (hc : c = '"') : Step c (.value stack) (.string stack .value [] [])
  | openArray : Step c (.value stack) (.value (.element [] :: stack))
  | openObject : Step c (.value stack) (.key stack [])
  | emptyArray : Step c (.value (.element [] :: stack)) (.after stack (.arr []))
  | openToken : Step c (.value stack) (.token stack [c])
  | skipKey (hw : isWhitespace c = true) : Step c (.key stack ms) (.key stack ms)
  | openKey (hc : c = '"') : Step c (.key stack ms) (.string stack (.key ms) [] [])
  | emptyObject : Step c (.key stack []) (.after stack (.obj []))
  | skipColon (hw : isWhitespace c = true) : Step c (.colon stack ms k) (.colon stack ms k)
  | openMember (hc : c = ':') : Step c (.colon stack ms k) (.value (.member ms k :: stack))
  | closeString (hc : c = '"') :
    Step c (.string stack target cs []) (endString stack cs target)
  | piece (hd : pieceChar (piece ++ [c]) = some d) :
    Step c (.string stack target cs piece) (.string stack target (cs ++ [d]) [])
  | pending : Step c (.string stack target cs piece) (.string stack target cs (piece ++ [c]))
  | closeToken (hv : tokenValue text = some v) (h : StepAfter v c stack next) :
    Step c (.token stack text) next
  | token : Step c (.token stack text) (.token stack (text ++ [c]))
  | after (h : StepAfter v c stack next) : Step c (.after stack v) next

theorem step_value_cases (h : step (.value stack) c = some next) : Step c (.value stack) next := by
  rw [step] at h
  split at h
  case isTrue hw =>
    obtain rfl := Option.some.inj h
    exact .skipValue hw
  split at h
  case isTrue hc =>
    obtain rfl := Option.some.inj h
    exact .openString hc
  split at h
  case isTrue =>
    obtain rfl := Option.some.inj h
    exact .openArray
  split at h
  case isTrue =>
    obtain rfl := Option.some.inj h
    exact .openObject
  split at h
  case isTrue =>
    rw [closeEmpty.eq_def] at h
    split at h
    case h_1 =>
      obtain rfl := Option.some.inj h
      exact .emptyArray
    case h_2 => cases h
  split at h
  case isTrue => cases h
  case isFalse =>
    obtain rfl := Option.some.inj h
    exact .openToken

theorem step_key_cases (h : step (.key stack ms) c = some next) : Step c (.key stack ms) next := by
  rw [step] at h
  split at h
  case isTrue hw =>
    obtain rfl := Option.some.inj h
    exact .skipKey hw
  split at h
  case isTrue hc =>
    obtain rfl := Option.some.inj h
    exact .openKey hc
  split at h
  case isTrue he =>
    obtain rfl := Option.some.inj h
    rw [Bool.and_eq_true, List.isEmpty_iff] at he
    obtain rfl := he.2
    exact .emptyObject
  case isFalse => cases h

theorem step_cases (h : step state c = some next) : Step c state next := by
  cases state with
  | value stack => exact step_value_cases h
  | key stack ms => exact step_key_cases h
  | colon stack ms k =>
    rw [step] at h
    split at h
    case isTrue hw =>
      obtain rfl := Option.some.inj h
      exact .skipColon hw
    split at h
    case isTrue hc =>
      obtain rfl := Option.some.inj h
      exact .openMember hc
    case isFalse => cases h
  | string stack target cs piece =>
    rw [step] at h
    split at h
    case isTrue he =>
      obtain rfl := Option.some.inj h
      obtain ⟨rfl, hc⟩ := he
      exact .closeString hc
    case isFalse =>
      split at h
      case h_1 d hd =>
        obtain rfl := Option.some.inj h
        exact .piece hd
      case h_2 =>
        obtain rfl := Option.some.inj h
        exact .pending
  | token stack text =>
    rw [step] at h
    split at h
    case isTrue =>
      obtain ⟨v, hv, hafter⟩ := Option.bind_eq_some_iff.1 h
      exact .closeToken hv (stepAfter_cases hafter)
    case isFalse =>
      obtain rfl := Option.some.inj h
      exact .token
  | after stack v => exact .after (stepAfter_cases h)

theorem read_cons (h : read state (c :: text) = some document) :
    ∃ next, Step c state next ∧ read next text = some document := by
  obtain ⟨next, hstep, hread⟩ := Option.bind_eq_some_iff.1 h
  exact ⟨next, step_cases hstep, hread⟩

/-- The document has the value where the frames say. -/
def Fills : List Frame → Json → Json → Prop
  | [], v, document => document = v
  | .element vs :: stack, v, document => ∃ rest, Fills stack (.arr (vs ++ v :: rest)) document
  | .member ms k :: stack, v, document =>
    ∃ rest, Fills stack (.obj (ms ++ (k, v) :: rest)) document

/-- What has been read of a document is kept in it. -/
def Opens : State → Json → Prop
  | .value (.element vs :: stack), document => ∃ rest, Fills stack (.arr (vs ++ rest)) document
  | .value stack, document | .token stack _, document | .string stack .value .., document =>
    ∃ v, Fills stack v document
  | .key stack ms, document | .string stack (.key ms) .., document =>
    ∃ rest, Fills stack (.obj (ms ++ rest)) document
  | .colon stack ms k, document => ∃ v, Fills (.member ms k :: stack) v document
  | .after stack v, document => Fills stack v document

theorem opens_value (h : Fills stack v document) : Opens (.value stack) document := by
  cases stack with
  | nil => exact ⟨v, h⟩
  | cons frame stack =>
    cases frame with
    | element vs =>
      obtain ⟨rest, h⟩ := h
      exact ⟨v :: rest, h⟩
    | member ms k => exact ⟨v, h⟩

theorem opens_stepAfter (hstep : StepAfter v c stack next) (h : Opens next document) :
    Fills stack v document := by
  cases hstep with
  | skip => exact h
  | nextElement | nextMember =>
    obtain ⟨rest, h⟩ := h
    exact ⟨rest, by rwa [List.append_assoc] at h⟩
  | closeArray | closeObject => exact ⟨[], h⟩

theorem opens_step (hstep : Step c state next) (h : Opens next document) :
    Opens state document := by
  cases hstep with
  | skipValue | skipKey | skipColon | openKey | openMember | token => exact h
  | openString | openArray | openObject | openToken =>
    obtain ⟨_, h⟩ := h
    exact opens_value h
  | emptyArray | emptyObject => exact ⟨[], h⟩
  | @closeString _ target =>
    cases target with
    | value => exact ⟨_, h⟩
    | key ms =>
      obtain ⟨v, rest, h⟩ := h
      exact ⟨_ :: rest, h⟩
  | @piece _ _ _ target | @pending _ target => cases target <;> exact h
  | closeToken _ hafter => exact ⟨_, opens_stepAfter hafter h⟩
  | after hafter => exact opens_stepAfter hafter h

theorem opens_result (h : result state = some document) : Opens state document := by
  rw [result.eq_def] at h
  split at h
  case h_1 => exact (Option.some.inj h).symm
  case h_2 => exact ⟨document, rfl⟩
  case h_3 => cases h

theorem opens_read (h : read state text = some document) : Opens state document := by
  induction text generalizing state with
  | nil => exact opens_result h
  | cons c text ih =>
    obtain ⟨next, hstep, hread⟩ := read_cons h
    exact opens_step hstep (ih hread)

theorem read_string_end (h : read (.string stack target cs piece) text = some document) :
    ∃ body cs' rest, piece ++ text = body ++ '"' :: rest ∧ Chars body cs' ∧
      read (endString stack (cs ++ cs') target) rest = some document := by
  induction text generalizing cs piece with
  | nil => cases h
  | cons c text ih =>
    obtain ⟨next, hstep, hread⟩ := read_cons h
    cases hstep with
    | closeString hc =>
      subst hc
      refine ⟨[], [], text, rfl, .nil, ?_⟩
      rwa [List.append_nil]
    | @piece _ d _ _ _ hd =>
      obtain ⟨body, cs', rest, he, hchars, hend⟩ := ih hread
      refine ⟨piece ++ [c] ++ body, d :: cs', rest, ?_, .cons hd hchars, ?_⟩
      · rw [List.append_assoc, ← he, List.append_assoc]
        rfl
      · rwa [List.append_assoc] at hend
    | pending =>
      obtain ⟨body, cs', rest, he, hchars, hend⟩ := ih hread
      refine ⟨body, cs', rest, ?_, hchars, hend⟩
      rw [← he, List.append_assoc]
      rfl

/-- The frames say which part of a document the value is. -/
theorem Fills.unique (h : Fills stack v document) (h' : Fills stack v' document) : v = v' := by
  induction stack generalizing v v' with
  | nil => exact h.symm.trans h'
  | cons frame stack ih =>
    cases frame with
    | element vs =>
      obtain ⟨rest, h⟩ := h
      obtain ⟨rest', h'⟩ := h'
      exact (List.cons.inj (List.append_cancel_left (Json.arr.inj (ih h h')))).1
    | member ms k =>
      obtain ⟨rest, h⟩ := h
      obtain ⟨rest', h'⟩ := h'
      have hmembers := List.append_cancel_left (Json.obj.inj (ih h h'))
      exact (Prod.mk.inj (List.cons.inj hmembers).1).2

theorem read_after_member (h : read (.after (.member ms k :: stack) v) text = some document) :
    ∃ w rest, IsWhitespace w ∧
      ((text = w ++ ',' :: rest ∧ read (.key stack (ms ++ [(k, v)])) rest = some document) ∨
        Fills stack (.obj (ms ++ [(k, v)])) document) := by
  induction text with
  | nil => cases h
  | cons c text ih =>
    obtain ⟨next, hstep, hread⟩ := read_cons h
    cases hstep with
    | after hafter =>
      cases hafter with
      | skip hw =>
        obtain ⟨w, rest, hblank, hrest⟩ := ih hread
        refine ⟨c :: w, rest, List.forall_mem_cons.2 ⟨hw, hblank⟩, ?_⟩
        rcases hrest with ⟨rfl, hrest⟩ | hfills
        · exact .inl ⟨rfl, hrest⟩
        · exact .inr hfills
      | nextMember hc => exact ⟨[], text, whitespace_nil, .inl ⟨hc ▸ rfl, hread⟩⟩
      | closeObject => exact ⟨[], text, whitespace_nil, .inr (opens_read hread)⟩

theorem read_after_end (h : read (.after [] v) text = some document) :
    IsWhitespace text ∧ document = v := by
  induction text with
  | nil => exact ⟨whitespace_nil, (Option.some.inj h).symm⟩
  | cons c text ih =>
    obtain ⟨next, hstep, hread⟩ := read_cons h
    cases hstep with
    | after hafter =>
      cases hafter with
      | skip hw =>
        obtain ⟨hblank, rfl⟩ := ih hread
        exact ⟨List.forall_mem_cons.2 ⟨hw, hblank⟩, rfl⟩

theorem read_key (hms : ms ≠ []) (h : read (.key stack ms) text = some document) :
    ∃ w rest, IsWhitespace w ∧ text = w ++ '"' :: rest ∧
      read (.string stack (.key ms) [] []) rest = some document := by
  induction text with
  | nil => cases h
  | cons c text ih =>
    obtain ⟨next, hstep, hread⟩ := read_cons h
    cases hstep with
    | skipKey hw =>
      obtain ⟨w, rest, hblank, rfl, hrest⟩ := ih hread
      exact ⟨c :: w, rest, List.forall_mem_cons.2 ⟨hw, hblank⟩, rfl, hrest⟩
    | openKey hc => exact ⟨[], text, whitespace_nil, hc ▸ rfl, hread⟩
    | emptyObject => exact absurd rfl hms

theorem read_colon (h : read (.colon stack ms k) text = some document) :
    ∃ w rest, IsWhitespace w ∧ text = w ++ ':' :: rest ∧
      read (.value (.member ms k :: stack)) rest = some document := by
  induction text with
  | nil => cases h
  | cons c text ih =>
    obtain ⟨next, hstep, hread⟩ := read_cons h
    cases hstep with
    | skipColon hw =>
      obtain ⟨w, rest, hblank, rfl, hrest⟩ := ih hread
      exact ⟨c :: w, rest, List.forall_mem_cons.2 ⟨hw, hblank⟩, rfl, hrest⟩
    | openMember hc => exact ⟨[], text, whitespace_nil, hc ▸ rfl, hread⟩

theorem tokenValue_ne_str (s : String) : tokenValue text ≠ some (.str s) := by
  rw [tokenValue]
  split_ifs <;> exact nofun

theorem read_token_value (h : read (.token stack word) text = some document) :
    ∃ word' v, tokenValue word' = some v ∧ Fills stack v document := by
  induction text generalizing word with
  | nil =>
    cases stack with
    | nil => exact ⟨word, document, h, rfl⟩
    | cons frame stack => cases h
  | cons c text ih =>
    obtain ⟨next, hstep, hread⟩ := read_cons h
    cases hstep with
    | closeToken hv hafter => exact ⟨word, _, hv, opens_stepAfter hafter (opens_read hread)⟩
    | token => exact ih hread

theorem read_value_str (h : read (.value (.member ms k :: stack)) text = some document)
    (hfills : Fills (.member ms k :: stack) (.str s) document) :
    ∃ w rest, IsWhitespace w ∧ text = w ++ '"' :: rest ∧
      read (.string (.member ms k :: stack) .value [] []) rest = some document := by
  induction text with
  | nil => cases h
  | cons c text ih =>
    obtain ⟨next, hstep, hread⟩ := read_cons h
    cases hstep with
    | skipValue hw =>
      obtain ⟨w, rest, hblank, rfl, hrest⟩ := ih hread
      exact ⟨c :: w, rest, List.forall_mem_cons.2 ⟨hw, hblank⟩, rfl, hrest⟩
    | openString hc => exact ⟨[], text, whitespace_nil, hc ▸ rfl, hread⟩
    -- no other start leads to a string
    | openArray =>
      obtain ⟨rest, hopens⟩ := opens_read hread
      cases hfills.unique hopens
    | openObject =>
      obtain ⟨rest, hopens⟩ := opens_read hread
      cases hfills.unique hopens
    | openToken =>
      obtain ⟨word, v, hv, hword⟩ := read_token_value hread
      obtain rfl := hfills.unique hword
      exact absurd hv (tokenValue_ne_str s)

/-- A member whose value is a string, as it stands in the text after the one before. -/
theorem read_next_str (h : read (.after (.member ms k :: stack) v) text = some document)
    (hfills : Fills stack (.obj (ms ++ (k, v) :: (k', .str s) :: rest)) document) :
    ∃ w₁ w₂ w₃ w₄ key body post,
      IsWhitespace w₁ ∧ IsWhitespace w₂ ∧ IsWhitespace w₃ ∧ IsWhitespace w₄ ∧
      text = w₁ ++ ',' :: (w₂ ++ '"' :: (key ++ '"' :: (w₃ ++ ':' :: (w₄ ++ '"' ::
        (body ++ '"' :: post))))) ∧
      Chars key k'.toList ∧ Chars body s.toList := by
  obtain ⟨w₁, text₁, hw₁, hnext⟩ := read_after_member h
  obtain ⟨rfl, hkey⟩ : text = w₁ ++ ',' :: text₁ ∧
      read (.key stack (ms ++ [(k, v)])) text₁ = some document := by
    apply hnext.resolve_right
    intro hclosed
    have hmembers := List.append_cancel_left (Json.obj.inj (hfills.unique hclosed))
    cases hmembers
  obtain ⟨w₂, text₂, hw₂, rfl, hstring⟩ := read_key (by simp) hkey
  obtain ⟨key, keyChars, text₃, rfl, hkeyChars, hcolon⟩ := read_string_end hstring
  obtain ⟨w₃, text₄, hw₃, rfl, hvalue⟩ := read_colon hcolon
  -- the key and the value are those of the document
  obtain ⟨v', rest', hread⟩ : ∃ v', Fills (.member (ms ++ [(k, v)]) (.ofList keyChars) :: stack) v'
    document := opens_read hcolon
  rw [List.nil_append] at *
  have hsplit : ms ++ (k, v) :: (k', .str s) :: rest =
      (ms ++ [(k, v)]) ++ (k', .str s) :: rest := (List.append_assoc ms [(k, v)] _).symm
  rw [hsplit] at hfills
  have hmembers := List.append_cancel_left (Json.obj.inj (hfills.unique hread))
  obtain ⟨hmember, -⟩ := List.cons.inj hmembers
  obtain ⟨rfl, -⟩ := Prod.mk.inj hmember
  obtain ⟨w₄, text₅, hw₄, rfl, hbody⟩ := read_value_str hvalue ⟨rest, hfills⟩
  obtain ⟨body, bodyChars, post, rfl, hbodyChars, hend⟩ := read_string_end hbody
  rw [List.nil_append] at *
  have hvalues : Fills (.member (ms ++ [(k, v)]) (.ofList keyChars) :: stack) (.str s) document :=
    ⟨rest, hfills⟩
  have hstr : Json.str s = .str (.ofList bodyChars) := hvalues.unique (opens_read hend)
  obtain rfl := Json.str.inj hstr
  refine ⟨w₁, w₂, w₃, w₄, key, body, post, hw₁, hw₂, hw₃, hw₄, rfl, ?_, ?_⟩
  · rwa [String.toList_ofList]
  · rwa [String.toList_ofList]

end State

theorem Document.read (h : Document text v) : State.read (.value []) text.toList = some v := by
  have hread := State.spells_read h [] [] nofun
  rwa [List.append_nil] at hread

/-- The string that a text stands for between two quotes. -/
def decode (text : List Char) : Option String :=
  (State.read (.value []) ('"' :: (text ++ ['"']))).bind str?

theorem decode_eq_some_iff : decode text = some s ↔ Chars text s.toList := by
  have hopen (rest : List Char) : State.read (.value []) ('"' :: rest) =
      State.read (.string [] .value [] []) rest := State.read_step (by rfl) rest
  rw [decode, hopen]
  apply Iff.intro
  · intro h
    obtain ⟨document, hread, hstr⟩ := Option.bind_eq_some_iff.1 h
    obtain ⟨body, cs, rest, he, hchars, hend⟩ := State.read_string_end hread
    obtain ⟨hblank, rfl⟩ := State.read_after_end hend
    -- the last quote of the text is not white space
    have hrest : rest = [] := by
      cases rest using List.reverseRecOn with
      | nil => rfl
      | append_singleton init c =>
        have hlast := congrArg List.getLast? he
        rw [List.nil_append, List.getLast?_concat, ← List.cons_append, ← List.append_assoc,
          List.getLast?_concat] at hlast
        obtain rfl := Option.some.inj hlast
        exact absurd (hblank '"' (by simp)) (by decide)
    subst hrest
    obtain rfl : text = body := List.append_cancel_right he
    obtain rfl := Option.some.inj hstr
    rwa [List.nil_append, String.toList_ofList]
  · intro h
    rw [State.read_string h]
    change some (String.ofList s.toList) = some s
    rw [String.ofList_toList]

theorem Chars.unique (h : Chars text cs) (h' : Chars text cs') : cs = cs' := by
  rw [← String.toList_ofList (l := cs)] at h
  rw [← String.toList_ofList (l := cs')] at h'
  have heq := (decode_eq_some_iff.2 h).symm.trans (decode_eq_some_iff.2 h')
  exact String.ofList_injective (Option.some.inj heq)

/-- A document has one value. -/
theorem Document.unique (h : Document text v) (h' : Document text v') : v = v' :=
  Option.some.inj (h.read.symm.trans h'.read)

end Json
