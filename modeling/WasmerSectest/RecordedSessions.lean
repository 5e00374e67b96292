import Mathlib
import WasmerSectest.Lib.Machine
import WasmerSectest.Lib.Writes
import WasmerSectest.SessionIndex

namespace WasmerSectest
set_option autoImplicit true

/-- What stands before a name in a directory. -/
def Path.stem (dir : Path) : List UInt8 :=
  if dir.bytes = [] ∨ dir.bytes.getLast? = some 0x2f then dir.bytes else dir.bytes ++ [0x2f]

def Relative (name : String) : Prop := (Utf8.bytes name).head? ≠ some 0x2f

theorem join_relative (dir : Path) (h : Relative name) :
    dir.join name = ⟨dir.stem ++ Utf8.bytes name⟩ := by
  rw [Path.join, if_neg h, Path.stem]
  split
  · rfl
  · rw [List.append_assoc]
    rfl

theorem join_injective {dir : Path} (h : Relative name) (h' : Relative name')
    (he : dir.join name = dir.join name') : name = name' := by
  rw [join_relative dir h, join_relative dir h', Path.mk.injEq] at he
  exact Utf8.bytes_injective (List.append_cancel_left he)

/-- The path is text that goes into a line of the index as it is. -/
def Path.Plain (path : Path) : Prop :=
  ∃ name : String, path.bytes = Utf8.bytes name ∧ ∀ c ∈ name.toList, ¬Separator c

theorem plain_stem {dir : Path} (h : dir.Plain) : Path.Plain ⟨dir.stem⟩ := by
  obtain ⟨name, hname, hplain⟩ := h
  change ∃ name, dir.stem = _ ∧ _
  rw [Path.stem]
  split
  · exact ⟨name, hname, hplain⟩
  · refine ⟨name ++ "/", ?_, ?_⟩
    · rw [Utf8.bytes_append, hname]
      rfl
    · intro c hc
      rw [String.toList_append, List.mem_append] at hc
      rcases hc with hc | hc
      · exact hplain c hc
      · obtain rfl := List.mem_singleton.1 hc
        unfold Separator
        decide

theorem plain_of_append {bytes : List UInt8} {name : String}
    (h : Path.Plain ⟨bytes ++ Utf8.bytes name⟩) : Path.Plain ⟨bytes⟩ := by
  obtain ⟨whole, hwhole, hplain⟩ := h
  obtain ⟨init, rfl⟩ := Utf8.exists_bytes_of_append hwhole.symm
  refine ⟨init, rfl, ?_⟩
  rw [← Utf8.bytes_append] at hwhole
  obtain rfl := Utf8.bytes_injective hwhole
  intro c hc
  exact hplain c (String.toList_append ▸ List.mem_append_left _ hc)

theorem plain_of_join {dir : Path} (hrel : Relative name) (h : (dir.join name).Plain) :
    dir.Plain := by
  rw [join_relative dir hrel] at h
  have hstem : Path.Plain ⟨dir.stem⟩ := plain_of_append h
  rw [Path.stem] at hstem
  split at hstem
  · exact hstem
  · have hslash : Utf8.bytes "/" = [0x2f] := by decide
    rw [← hslash] at hstem
    exact plain_of_append hstem

theorem relative_of_append {head : String} (rest : String) (hne : Utf8.bytes head ≠ [])
    (h : Relative head) : Relative (head ++ rest) := by
  rw [Relative, Utf8.bytes_append, List.head?_append_of_ne_nil _ hne]
  exact h

theorem relative_index : Relative "index.tsv" := by
  unfold Relative
  decide

theorem showNat_injective (h : showNat m = showNat n) : m = n := by
  have hdigits : Decimal.digits? (showNat m) = Decimal.digits? (showNat n) := congrArg _ h
  rw [showNat, showNat, Decimal.digits?_toDigits, Decimal.digits?_toDigits] at hdigits
  exact Option.some.inj hdigits

theorem showNat_append_inj {rest rest' : List Char}
    (h : showNat m ++ '-' :: rest = showNat n ++ '-' :: rest') : m = n ∧ rest = rest' := by
  have htake (k : Nat) (text : List Char) :
      (showNat k ++ '-' :: text).takeWhile Char.isDigit = showNat k := by
    have hdigits : ∀ c ∈ showNat k, c.isDigit = true := fun c hc => Decimal.mem_toDigits hc
    rw [List.takeWhile_append_of_pos hdigits,
      List.takeWhile_cons_of_neg (by decide), List.append_nil]
  have hnum : showNat m = showNat n := by
    rw [← htake m rest, h, htake n rest']
  rw [hnum] at h
  exact ⟨showNat_injective hnum, (List.cons.inj (List.append_cancel_left h)).2⟩

theorem mem_intercalate_of_mem {sep l : List α} {ls : List (List α)} (hl : l ∈ ls) (h : x ∈ l) :
    x ∈ sep.intercalate ls := by
  induction ls with
  | nil => cases hl
  | cons l' ls ih =>
    rw [intercalate_cons, List.mem_append, List.mem_flatMap]
    rcases List.mem_cons.1 hl with rfl | hl
    · exact .inl h
    · exact .inr ⟨l, hl, List.mem_append_right sep h⟩

theorem toLower_chars {c : Char} (h : c.isAlphanum = true) :
    c.toLower.isLower = true ∨ c.toLower.isDigit = true := by
  rw [Char.toLower]
  split
  case isTrue hupper =>
    simp only [Char.isLower, ge_iff_le, UInt32.le_iff_toNat_le, Bool.and_eq_true,
      decide_eq_true_eq, UInt32.toNat_add] at hupper ⊢
    have hA : 'A'.val.toNat = 65 := rfl
    have hZ : 'Z'.val.toNat = 90 := rfl
    have ha : 'a'.val.toNat = 97 := rfl
    have hz : 'z'.val.toNat = 122 := rfl
    have hdiff : ('a'.val - 'A'.val).toNat = 32 := rfl
    exact .inl (by omega)
  case isFalse hupper =>
    rw [Char.isAlphanum, Char.isAlpha, Bool.or_eq_true, Bool.or_eq_true] at h
    rcases h with (h | h) | h
    · rw [Char.isUpper, decide_eq_true_eq] at h
      exact absurd h hupper
    · exact .inl h
    · exact .inr h

theorem slugify_chars (value : String) :
    ∀ c ∈ (slugify value).toList, c = '-' ∨ c.isLower = true ∨ c.isDigit = true := by
  intro c hc
  rw [slugify] at hc
  split at hc
  case isTrue =>
    have hrun : "run".toList.all Char.isLower = true := by decide
    exact .inr (.inl (List.all_eq_true.1 hrun c hc))
  case isFalse =>
    rw [String.toList_ofList] at hc
    rcases mem_intercalate hc with hc | ⟨part, hpart, hc⟩
    · exact .inl (List.mem_singleton.1 hc)
    · have hmem : c ∈ ['-'].intercalate (List.splitOn '-' _) :=
        mem_intercalate_of_mem (List.mem_filter.1 hpart).1 hc
      rw [List.intercalate_splitOn, List.mem_map] at hmem
      obtain ⟨d, -, rfl⟩ := hmem
      split
      case isTrue hd => exact .inr (toLower_chars hd)
      case isFalse => exact .inl rfl

example : slugify "Interview Narrative" = "interview-narrative" ∧ slugify "  " = "run" := by
  decide

section
variable [HostArch]

theorem fileName_eq (call : RecordCall) :
    call.fileName =
      "session-" ++ (toString call.createdUnixMs.toNat ++
        ("-" ++ (slugify call.label ++ ".json"))) := by
  delta RecordCall.fileName RecordCall.id
  simp only [toString_string, String.append_assoc]

theorem relative_fileName (call : RecordCall) : Relative call.fileName := by
  rw [fileName_eq]
  apply relative_of_append
  · decide
  · unfold Relative
    decide

theorem fileName_toList (call : RecordCall) :
    call.fileName.toList =
      "session-".toList ++ (showNat call.createdUnixMs.toNat ++
        '-' :: ((slugify call.label).toList ++ ".json".toList)) := by
  have hnat (n : Nat) : (toString n).toList = showNat n := Nat.toList_repr
  have hdash : "-".toList = ['-'] := rfl
  rw [fileName_eq, String.toList_append, String.toList_append, hnat, String.toList_append,
    String.toList_append, hdash, List.singleton_append]

/-- The name of a session's file tells its millisecond and slug, and nothing else. -/
theorem fileName_eq_iff {call call' : RecordCall} :
    call.fileName = call'.fileName ↔
      unixMillis call.sinceEpoch = unixMillis call'.sinceEpoch ∧
        slugify call.label = slugify call'.label := by
  apply Iff.intro
  · intro h
    have hlist := congrArg String.toList h
    rw [fileName_toList, fileName_toList] at hlist
    obtain ⟨hmillis, hslug⟩ := showNat_append_inj (List.append_cancel_left hlist)
    exact ⟨BitVec.eq_of_toNat_eq hmillis, String.toList_inj.1 (List.append_cancel_right hslug)⟩
  · rintro ⟨hmillis, hslug⟩
    rw [fileName_eq, fileName_eq, RecordCall.createdUnixMs, RecordCall.createdUnixMs, hmillis,
      hslug]

omit [HostArch] in
theorem not_separator_of_unescaped (h : Json.isUnescaped c = true) : ¬Separator c := by
  rintro (rfl | rfl | rfl) <;> exact absurd h (by decide)

omit [HostArch] in
theorem plain_not_separator {text : String} (h : text.toList.all Json.isUnescaped = true) :
    ∀ c ∈ text.toList, ¬Separator c :=
  fun c hc => not_separator_of_unescaped (List.all_eq_true.1 h c hc)

theorem summary_recordable (store : SessionStore) (call : RecordCall) :
    (store.summary call).Recordable where
  id := by
    intro c hc hsep
    have hid : call.id.toList = showNat call.createdUnixMs.toNat := Nat.toList_repr
    change c ∈ call.id.toList at hc
    rw [hid] at hc
    exact showNat_separator hsep _ hc
  backend := plain_not_separator (backend_plain call.config.backend)
  isolation := plain_not_separator (isolation_plain call.config.isolation)
  total := call.reports_lt
  passed := List.length_filter_le CaseReport.passed call.reports
  failed := Nat.sub_le _ _

variable {store : SessionStore}

/-- A recording that succeeds writes its session and adds one line to the index. -/
theorem recordRun_ok (h : (store.recordRun files call).1 = .ok summary) :
    summary = store.summary call ∧
      (store.recordRun files call).2 =
        (files.write (store.sessionPath call) (Utf8.bytes (store.contents call))).append
          store.indexPath (Utf8.bytes (indexLine (store.summary call) ++ "\n")) := by
  rw [SessionStore.recordRun.eq_def] at h ⊢
  cases hdir : call.outcome.createDir with
  | error => simp only [hdir, reduceCtorEq] at h
  | ok =>
    cases hwrite : call.outcome.write with
    | error => simp only [hdir, hwrite, reduceCtorEq] at h
    | ok =>
      cases hopen : call.outcome.openIndex with
      | error => simp only [hdir, hwrite, hopen, reduceCtorEq] at h
      | ok =>
        cases hupdate : call.outcome.update with
        | error => simp only [hdir, hwrite, hopen, hupdate, reduceCtorEq] at h
        | ok =>
          simp only [hdir, hwrite, hopen, hupdate, Except.ok.injEq] at h
          exact ⟨h.symm, rfl⟩

def SessionStore.write (store : SessionStore) (call : RecordCall) : Path × List UInt8 :=
  (store.sessionPath call, Utf8.bytes (store.contents call))

/-- What the files hold after the calls. -/
structure Stored (store : SessionStore) (before : Files) (calls : List RecordCall)
    (files : Files) : Prop where
  index : (files store.indexPath).getD [] = Utf8.bytes (indexText (calls.map store.summary))
  sessions : ∀ path ≠ store.indexPath,
    files path = Writes.apply before (calls.map store.write) path

omit [HostArch] in
theorem indexText_concat (summaries : List SessionSummary) (summary : SessionSummary) :
    indexText (summaries ++ [summary]) = indexText summaries ++ (indexLine summary ++ "\n") := by
  rw [← String.toList_inj, indexText, indexText, String.toList_ofList, String.toList_append,
    String.toList_ofList, List.flatMap_append, List.flatMap_singleton, String.toList_append]
  rfl

theorem Stored.call (h : Stored store before calls files) {call : RecordCall}
    (hpath : store.sessionPath call ≠ store.indexPath)
    (hok : (store.recordRun files call).1 = .ok summary) :
    Stored store before (calls ++ [call]) (store.recordRun files call).2 := by
  obtain ⟨-, he⟩ := recordRun_ok hok
  rw [he]
  refine ⟨?_, ?_⟩
  · rw [Files.append, Function.update_self, Files.write, Function.update_of_ne hpath.symm, h.index,
      List.map_append, List.map_singleton, indexText_concat, Utf8.bytes_append]
    rfl
  · intro path hne
    rw [Files.append, Function.update_of_ne hne, List.map_append, List.map_singleton, Files.write]
    by_cases hp : path = store.sessionPath call
    · subst hp
      rw [Function.update_self]
      exact (Writes.apply_concat_self before (calls.map store.write) (store.write call)).symm
    · rw [Function.update_of_ne hp, h.sessions path hne, Writes.apply_concat_of_ne before _ hp]

theorem stored (hpath : ∀ call, store.sessionPath call ≠ store.indexPath) {before : Files}
    (hindex : before store.indexPath = none) {calls : List RecordCall}
    (hok : ∀ call ∈ calls, ∀ files, ∃ summary, (store.recordRun files call).1 = .ok summary) :
    Stored store before calls (Machine.final store.recordRun before calls) := by
  induction calls using List.reverseRecOn with
  | nil =>
    refine ⟨?_, fun path _ => rfl⟩
    rw [Machine.final, hindex]
    rfl
  | append_singleton calls call ih =>
    have hcalls := ih fun call hc => hok call (List.mem_append_left _ hc)
    obtain ⟨summary, hcall⟩ := hok call List.mem_concat_self
      (Machine.final store.recordRun before calls)
    rw [Machine.final_concat]
    exact hcalls.call (hpath call) hcall

theorem Stored.listRecent (h : Stored store before calls files) (limit : Usize) :
    store.listRecent files limit =
      .ok ((calls.map fun call => (store.summary call).indexed).reverse.take limit.toNat) := by
  have hsummaries : ∀ summary ∈ calls.map store.summary, summary.Recordable :=
    List.forall_mem_map.2 fun call _ => summary_recordable store call
  have hparse := parse_indexText (calls.map store.summary) hsummaries
  rw [List.map_map] at hparse
  have hindex := h.index
  rw [SessionStore.listRecent, Files.readToString]
  cases hfile : files store.indexPath with
  | none =>
    rw [hfile] at hindex
    have hnil : Utf8.bytes "" = [] := rfl
    have hempty : "" = indexText (calls.map store.summary) :=
      Utf8.bytes_injective (hnil.trans hindex)
    have hlines : Text.lines "".toList = [] := rfl
    rw [← hempty, hlines, List.filterMap_nil] at hparse
    change Except.ok [] =
      Except.ok ((calls.map (SessionSummary.indexed ∘ store.summary)).reverse.take _)
    rw [← hparse, List.reverse_nil, List.take_nil]
  | some contents =>
    rw [hfile, Option.getD_some] at hindex
    have hread := Utf8.fromUtf8_eq_some_iff.2 hindex
    simp only [hread]
    change Except.ok (((Text.lines _).filterMap parseIndexLine).reverse.take _) = _
    rw [hparse]
    rfl

theorem usize_one_toNat : (1 : Usize).toNat = 1 :=
  BitVec.toNat_one (Nat.lt_of_lt_of_le (by decide) HostArch.usizeBits_ge)

theorem Stored.latest (h : Stored store before calls files) :
    store.latest files = .ok (calls.getLast?.map fun call => (store.summary call).indexed) := by
  rw [SessionStore.latest, h.listRecent, usize_one_toNat]
  change Except.ok (List.head? _) = _
  rw [List.head?_take, if_neg (by decide), List.head?_reverse, List.getLast?_map]

omit [HostArch] in
theorem slug_not_separator (value : String) : ∀ c ∈ (slugify value).toList, ¬Separator c := by
  intro c hc hsep
  rcases slugify_chars value c hc with rfl | h | h
  · exact absurd hsep (by unfold Separator; decide)
  · rcases hsep with rfl | rfl | rfl <;> exact absurd h (by decide)
  · exact digit_separator hsep h

theorem fileName_not_separator (call : RecordCall) :
    ∀ c ∈ call.fileName.toList, ¬Separator c := by
  intro c hc hsep
  rw [fileName_toList, List.mem_append, List.mem_append, List.mem_cons, List.mem_append] at hc
  have hsession : ∀ c ∈ "session-".toList, ¬Separator c := plain_not_separator (by decide)
  have hjson : ∀ c ∈ ".json".toList, ¬Separator c := plain_not_separator (by decide)
  rcases hc with hc | hc | rfl | hc | hc
  · exact hsession c hc hsep
  · exact showNat_separator hsep _ hc
  · exact absurd hsep (by unfold Separator; decide)
  · exact slug_not_separator _ c hc hsep
  · exact hjson c hc hsep

theorem plain_sessionPath {dir : Path} (h : dir.Plain) (call : RecordCall) :
    ((SessionStore.new dir).sessionPath call).Plain := by
  have hjoin : (SessionStore.new dir).sessionPath call = _ :=
    join_relative dir (relative_fileName call)
  obtain ⟨stem, hstem, hplain⟩ := plain_stem h
  change dir.stem = Utf8.bytes stem at hstem
  rw [hjoin, hstem, ← Utf8.bytes_append]
  refine ⟨_, rfl, ?_⟩
  intro c hc
  rw [String.toList_append, List.mem_append] at hc
  rcases hc with hc | hc
  · exact hplain c hc
  · exact fileName_not_separator call c hc

/-- The path of a summary leads to its session where the index keeps it as it is. -/
theorem indexed_path {call : RecordCall} (h : (store.sessionPath call).Plain) :
    ⟨Utf8.bytes (store.summary call).indexed.path⟩ = store.sessionPath call := by
  obtain ⟨name, hname, hplain⟩ := h
  have hdisplay : (store.sessionPath call).display = name := by
    rw [Path.display, hname, Utf8.fromUtf8Lossy_bytes]
  change Path.mk (Utf8.bytes (cleanTsv (store.sessionPath call).display)) = _
  rw [hdisplay, cleanTsv_of_no_separator hplain, ← hname]

theorem sessionPath_ne_index (dir : Path) (call : RecordCall) :
    (SessionStore.new dir).sessionPath call ≠ (SessionStore.new dir).indexPath := by
  intro he
  have hname := join_injective (relative_fileName call) relative_index he
  have hhead := congrArg (fun name => name.toList.head?) hname
  rw [fileName_toList] at hhead
  cases hhead

theorem sessionPath_eq_iff (dir : Path) {call call' : RecordCall} :
    (SessionStore.new dir).sessionPath call = (SessionStore.new dir).sessionPath call' ↔
      unixMillis call.sinceEpoch = unixMillis call'.sinceEpoch ∧
        slugify call.label = slugify call'.label := by
  rw [← fileName_eq_iff]
  exact ⟨join_injective (relative_fileName call) (relative_fileName call'),
    congrArg (Path.join dir)⟩

omit [HostArch] in
theorem readToString_ok_iff {files : Files} {path : Path} {text : String} :
    files.readToString path = .ok text ↔ files path = some (Utf8.bytes text) := by
  rw [Files.readToString]
  cases files path with
  | none => exact ⟨nofun, nofun⟩
  | some contents =>
    rw [Option.some.injEq, ← Utf8.fromUtf8_eq_some_iff]
    cases hread : Utf8.fromUtf8 contents with
    | none => simp only [hread, reduceCtorEq]
    | some text' => simp only [hread, Except.ok.injEq, Option.some.injEq]

omit [HostArch] in
theorem readSession_ok_iff {files : Files} {summary : SessionSummary} {text : String} :
    SessionStore.readSession files summary = .ok text ↔
      files ⟨Utf8.bytes summary.path⟩ = some (Utf8.bytes text) := by
  rw [SessionStore.readSession, ← readToString_ok_iff]
  cases files.readToString ⟨Utf8.bytes summary.path⟩ with
  | error => exact ⟨nofun, nofun⟩
  | ok text' => exact Iff.rfl

/-- Every session in the index is read back as the JSON of its own call, and no two of them share
a file. -/
def NeverOverwritten (store : SessionStore) (calls : List RecordCall) : Prop :=
  ∀ before : Files, before store.indexPath = none →
    (∀ limit : Usize, ∃ sessions,
      store.listRecent (Machine.final store.recordRun before calls) limit = .ok sessions ∧
      List.Forall₂ (fun call session => session = (store.summary call).indexed ∧
        SessionStore.readSession (Machine.final store.recordRun before calls) session =
          .ok (store.contents call)) (calls.reverse.take limit.toNat) sessions) ∧
    (calls.map store.sessionPath).Nodup

theorem nodup_iff (dir : Path) (calls : List RecordCall) :
    (calls.map (SessionStore.new dir).sessionPath).Nodup ↔
      calls.Pairwise fun call call' =>
        ¬(unixMillis call.sinceEpoch = unixMillis call'.sinceEpoch ∧
          slugify call.label = slugify call'.label) := by
  rw [List.Nodup, List.pairwise_map]
  exact List.Pairwise.iff fun call call' => not_congr (sessionPath_eq_iff dir)

theorem readSession_of_nodup (h : Stored store before calls files)
    (hnodup : (calls.map store.sessionPath).Nodup) {call : RecordCall} (hcall : call ∈ calls)
    (hplain : (store.sessionPath call).Plain)
    (hindex : store.sessionPath call ≠ store.indexPath) :
    SessionStore.readSession files (store.summary call).indexed = .ok (store.contents call) := by
  rw [readSession_ok_iff, indexed_path hplain, h.sessions _ hindex]
  have hkeys : ((calls.map store.write).map Prod.fst).Nodup := by
    rwa [List.map_map]
  exact Writes.apply_of_nodup before hkeys (List.mem_map_of_mem hcall)

def Files.empty : Files := fun _ => none

theorem plain_of_file {dir : Path}
    (h : Stored (SessionStore.new dir) Files.empty calls files)
    (hfile : files path = some contents) (hplain : path.Plain) : dir.Plain := by
  by_cases hp : path = (SessionStore.new dir).indexPath
  · subst hp
    exact plain_of_join relative_index hplain
  · rw [h.sessions path hp] at hfile
    rcases Writes.apply_eq_some hfile with hbefore | hwrite
    · cases hbefore
    · obtain ⟨call, -, hcall⟩ := List.mem_map.1 hwrite
      obtain rfl := (Prod.mk.inj hcall).1
      exact plain_of_join (relative_fileName call) hplain

omit [HostArch] in
theorem plain_indexed (summary : SessionSummary) :
    Path.Plain ⟨Utf8.bytes summary.indexed.path⟩ :=
  ⟨_, rfl, fun _ hc hsep => cleanTsv_separator hsep summary.path hc⟩

/-- Sessions are kept exactly where the index can name the directory and no two calls share both
the millisecond and the slug of the label. -/
theorem never_overwritten_iff (dir : Path) (calls : List RecordCall)
    (hok : ∀ call ∈ calls, ∀ files,
      ∃ summary, ((SessionStore.new dir).recordRun files call).1 = .ok summary) :
    NeverOverwritten (SessionStore.new dir) calls ↔
      (calls ≠ [] → dir.Plain) ∧
      calls.Pairwise fun call call' =>
        ¬(unixMillis call.sinceEpoch = unixMillis call'.sinceEpoch ∧
          slugify call.label = slugify call'.label) := by
  rw [← nodup_iff dir calls]
  apply Iff.intro
  · intro h
    have hempty : Files.empty (SessionStore.new dir).indexPath = none := rfl
    have hstored := stored (sessionPath_ne_index dir) hempty hok
    obtain ⟨hsessions, hnodup⟩ := h _ hempty
    refine ⟨fun hne => ?_, hnodup⟩
    obtain ⟨sessions, -, hread⟩ := hsessions 1
    cases hcalls : calls.reverse with
    | nil => exact absurd (List.reverse_eq_nil_iff.1 hcalls) hne
    | cons call rest =>
      rw [usize_one_toNat, hcalls] at hread
      obtain ⟨session, -, ⟨rfl, hsession⟩, -⟩ := List.forall₂_cons_left_iff.1 hread
      exact plain_of_file hstored (readSession_ok_iff.1 hsession) (plain_indexed _)
  · rintro ⟨hplain, hnodup⟩ before hindex
    have hstored := stored (sessionPath_ne_index dir) hindex hok
    refine ⟨fun limit => ⟨_, hstored.listRecent limit, ?_⟩, hnodup⟩
    rw [← List.map_reverse, ← List.map_take, List.forall₂_map_right_iff, List.forall₂_same]
    intro call hcall
    have hmem : call ∈ calls := List.mem_reverse.1 (List.mem_of_mem_take hcall)
    have hdir : dir.Plain := hplain (List.ne_nil_of_mem hmem)
    exact ⟨rfl, readSession_of_nodup hstored hnodup hmem (plain_sessionPath hdir call)
      (sessionPath_ne_index dir call)⟩

theorem recordRun_success {calls : List RecordCall} (h : ∀ call ∈ calls, call.outcome = .success) :
    ∀ call ∈ calls, ∀ files, ∃ summary, (store.recordRun files call).1 = .ok summary := by
  intro call hcall files
  rw [SessionStore.recordRun.eq_def, h call hcall]
  exact ⟨_, rfl⟩

def recordAt (label : String) (secs : UInt64) : RecordCall where
  label := label
  config := {}
  policy := .default
  reports := []
  reports_lt := Nat.two_pow_pos _
  sinceEpoch := some (.fromSecs secs)
  commandVersion := fun _ _ => none
  outcome := .success

theorem readSession_overwritten {first second : RecordCall}
    (h : Stored store before [first, second] files)
    (hpath : store.sessionPath first = store.sessionPath second)
    (hplain : (store.sessionPath first).Plain)
    (hindex : store.sessionPath first ≠ store.indexPath) :
    SessionStore.readSession files (store.summary first).indexed = .ok (store.contents second) := by
  rw [readSession_ok_iff, indexed_path hplain, h.sessions _ hindex, hpath]
  exact Writes.apply_concat_self before [store.write first] (store.write second)

theorem contents_ne_of_label {call call' : RecordCall} (h : call.label ≠ call'.label) :
    store.contents call ≠ store.contents call' := by
  intro he
  have hdocument := session_document call.commandVersion (store.summary call) call.label
    call.config call.policy call.reports
  have hdocument' := session_document call'.commandVersion (store.summary call') call'.label
    call'.config call'.policy call'.reports
  change Json.Document (store.contents call) _ at hdocument
  change Json.Document (store.contents call') _ at hdocument'
  rw [he] at hdocument
  have hvalue := congrArg (fun value => (value.get? "session").bind (·.get? "label"))
    (hdocument.unique hdocument')
  exact h (Json.str.inj (Option.some.inj hvalue))

end

theorem default_plain : SessionStore.default.dir.Plain :=
  ⟨_, rfl, plain_not_separator (by decide)⟩

theorem distinct_seconds_kept :
    letI := HostArch.x86_64
    NeverOverwritten .default [recordAt "Full Corpus" 1, recordAt "full corpus" 2] := by
  let _ := HostArch.x86_64
  let first := recordAt "Full Corpus" 1
  let second := recordAt "full corpus" 2
  have hsuccess : ∀ call ∈ [first, second], call.outcome = .success :=
    List.forall_mem_cons.2 ⟨rfl, List.forall_mem_singleton.2 rfl⟩
  have hdistinct : unixMillis first.sinceEpoch ≠ unixMillis second.sinceEpoch := by decide
  exact (never_overwritten_iff _ [first, second] (recordRun_success hsuccess)).2
    ⟨fun _ => default_plain, List.pairwise_pair.2 fun h => hdistinct h.1⟩

theorem same_millisecond_overwritten :
    letI := HostArch.x86_64
    let store := SessionStore.default
    let first := recordAt "Full Corpus" 1
    let second := recordAt "full corpus" 1
    let files := Machine.final store.recordRun Files.empty [first, second]
    (∀ call ∈ [first, second], ∀ files,
      ∃ summary, (store.recordRun files call).1 = .ok summary) ∧
    SessionStore.readSession files (store.summary first).indexed = .ok (store.contents second) ∧
    store.contents first ≠ store.contents second ∧
    ¬NeverOverwritten store [first, second] := by
  let _ := HostArch.x86_64
  intro store first second files
  have hsuccess : ∀ call ∈ [first, second], call.outcome = .success :=
    List.forall_mem_cons.2 ⟨rfl, List.forall_mem_singleton.2 rfl⟩
  have hok : ∀ call ∈ [first, second], ∀ files,
      ∃ summary, (store.recordRun files call).1 = .ok summary := recordRun_success hsuccess
  have hempty : Files.empty store.indexPath = none := rfl
  have hpath : store.sessionPath first = store.sessionPath second :=
    (sessionPath_eq_iff _).2 ⟨rfl, by decide⟩
  have hplain : (store.sessionPath first).Plain := plain_sessionPath default_plain first
  have hlabel : first.label ≠ second.label := by decide
  refine ⟨hok, ?_, contents_ne_of_label hlabel, ?_⟩
  · have hstored := stored (sessionPath_ne_index _) hempty hok
    exact readSession_overwritten hstored hpath hplain (sessionPath_ne_index _ first)
  · intro h
    obtain ⟨-, hnodup⟩ := h Files.empty hempty
    exact List.pairwise_pair.1 hnodup hpath

end WasmerSectest
