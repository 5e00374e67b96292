import WasmerSectest.RecordedSessions

namespace WasmerSectest
set_option autoImplicit true

/-- No byte of the path is a tab, a newline or a carriage return. -/
def Path.Unseparated (path : Path) : Prop :=
  (9 : UInt8) ∉ path.bytes ∧ (10 : UInt8) ∉ path.bytes ∧ (13 : UInt8) ∉ path.bytes

/-- A lossy reading puts in no character of one byte. -/
theorem not_mem_lossy (hd : String.utf8EncodeChar d = [b]) (hne : d ≠ '\uFFFD') (h : b ∉ bs) :
    d ∉ (Utf8.fromUtf8Lossy bs).toList := by
  rw [Utf8.fromUtf8Lossy, String.toList_ofList]
  intro hm
  rcases Utf8.mem_lossyChars hm with he | hin
  · exact hne he
  · rw [hd] at hin
    exact h (hin.subset (List.mem_singleton_self b))

theorem not_mem_stem {dir : Path} (hslash : b ≠ 0x2f) (h : b ∉ dir.bytes) : b ∉ dir.stem := by
  rw [Path.stem]
  split
  · exact h
  · intro hm
    rcases List.mem_append.1 hm with hm | hm
    · exact h hm
    · exact hslash (List.mem_singleton.1 hm)

section
variable [HostArch]

theorem not_mem_sessionPath {dir : Path} (call : RecordCall) (hd : String.utf8EncodeChar d = [b])
    (hslash : b ≠ 0x2f) (hsep : Separator d) (h : b ∉ dir.bytes) :
    b ∉ ((SessionStore.new dir).sessionPath call).bytes := by
  have hjoin : (SessionStore.new dir).sessionPath call = _ :=
    join_relative dir (relative_fileName call)
  rw [hjoin]
  intro hm
  rcases List.mem_append.1 hm with hm | hm
  · exact not_mem_stem hslash h hm
  · exact fileName_not_separator call d ((Utf8.mem_bytes_iff hd).1 hm) hsep

/-- The path of a session is printed without a separator, also where it is not text. -/
theorem display_not_separator {dir : Path} (h : dir.Unseparated) (call : RecordCall) :
    ∀ c ∈ ((SessionStore.new dir).sessionPath call).display.toList, ¬Separator c := by
  obtain ⟨htab, hnewline, hreturn⟩ := h
  intro c hc hsep
  have hcases := hsep
  rcases hcases with rfl | rfl | rfl
  · have hb : String.utf8EncodeChar '\t' = [9] := by decide
    exact not_mem_lossy hb (by decide)
      (not_mem_sessionPath call hb (by decide) hsep htab) hc
  · have hb : String.utf8EncodeChar '\n' = [10] := by decide
    exact not_mem_lossy hb (by decide)
      (not_mem_sessionPath call hb (by decide) hsep hnewline) hc
  · have hb : String.utf8EncodeChar '\r' = [13] := by decide
    exact not_mem_lossy hb (by decide)
      (not_mem_sessionPath call hb (by decide) hsep hreturn) hc

theorem indexed_summary {dir : Path} (h : dir.Unseparated) (call : RecordCall) :
    ((SessionStore.new dir).summary call).indexed =
      { (SessionStore.new dir).summary call with
        label := cleanTsv ((SessionStore.new dir).summary call).label } := by
  have hpath : cleanTsv ((SessionStore.new dir).summary call).path =
      ((SessionStore.new dir).summary call).path :=
    cleanTsv_of_no_separator (display_not_separator h call)
  rw [SessionSummary.indexed, hpath]

/-- A history of recordings that all succeed: each has returned its summary, and the index holds
one line for each. -/
theorem recorded {store : SessionStore} {before : Files} {calls : List RecordCall}
    (hpath : ∀ call, store.sessionPath call ≠ store.indexPath)
    (hindex : before store.indexPath = none)
    (hok : (Machine.trace store.recordRun before calls).map Prod.snd = summaries.map Except.ok) :
    summaries = calls.map store.summary ∧
      Stored store before calls (Machine.final store.recordRun before calls) := by
  induction calls using List.reverseRecOn generalizing summaries with
  | nil =>
    obtain rfl := List.map_eq_nil_iff.1 hok.symm
    refine ⟨rfl, ?_, fun path _ => rfl⟩
    rw [Machine.final, hindex]
    rfl
  | append_singleton calls call ih =>
    rw [Machine.trace_concat, List.map_append, List.map_singleton, eq_comm,
      List.map_eq_append_iff] at hok
    obtain ⟨earlier, last, rfl, hearlier, hlast⟩ := hok
    obtain ⟨summary, rest, rfl, hcall, hrest⟩ := List.map_eq_cons_iff.1 hlast
    obtain rfl := List.map_eq_nil_iff.1 hrest
    obtain ⟨rfl, hstored⟩ := ih hearlier.symm
    have hsummary : (store.recordRun (Machine.final store.recordRun before calls) call).1 =
        .ok summary := hcall.symm
    rw [Machine.final_concat, List.map_append, List.map_singleton, (recordRun_ok hsummary).1]
    exact ⟨rfl, hstored.call (hpath call) hsummary⟩

/-- What `list_recent` reads back is what the recordings returned, newest first, with the
separators in the labels blanked. -/
theorem index_round_trip (dir : Path) (hdir : dir.Unseparated) (before : Files)
    (hindex : before (SessionStore.new dir).indexPath = none) (calls : List RecordCall)
    (summaries : List SessionSummary)
    (hok : (Machine.trace (SessionStore.new dir).recordRun before calls).map Prod.snd =
      summaries.map Except.ok) (limit : Usize) :
    (SessionStore.new dir).listRecent
        (Machine.final (SessionStore.new dir).recordRun before calls) limit =
      .ok ((summaries.map fun summary =>
        { summary with label := cleanTsv summary.label }).reverse.take limit.toNat) := by
  obtain ⟨rfl, hstored⟩ := recorded (sessionPath_ne_index dir) hindex hok
  rw [hstored.listRecent, List.map_map]
  have hmap : (calls.map fun call => ((SessionStore.new dir).summary call).indexed) = _ :=
    List.map_congr_left fun call _ => indexed_summary hdir call
  rw [hmap]
  rfl

end

theorem tabbed_label_listed :
    letI := HostArch.x86_64
    let store := SessionStore.default
    let calls := [recordAt "full\tcorpus" 1, recordAt "single\ncase" 1]
    store.listRecent (Machine.final store.recordRun Files.empty calls) 1 =
      .ok [{ store.summary (recordAt "single\ncase" 1) with label := "single case" }] := by
  let _ := HostArch.x86_64
  intro store calls
  have hdir : store.dir.Unseparated := by
    unfold Path.Unseparated
    decide
  have hlabel : cleanTsv "single\ncase" = "single case" := by decide
  rw [← hlabel]
  exact index_round_trip store.dir hdir Files.empty rfl calls (calls.map store.summary) rfl 1

end WasmerSectest
