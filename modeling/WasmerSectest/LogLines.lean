import WasmerSectest.ImportVerdicts
import WasmerSectest.Lib.Alphabet
import WasmerSectest.Lib.TextLength
import WasmerSectest.PlainReports

namespace WasmerSectest
set_option autoImplicit true

open Alphabet (Over over_append over_ofList)

def printable (c : Char) : Bool := !isControl c

theorem printable_numeral : Alphabet.Numeral printable := by decide

theorem printable_hexPad (width n : Nat) : Over printable (hexPad width n) := by
  rw [hexPad, over_ofList, List.forall_mem_append]
  constructor
  · intro c hc
    rw [List.eq_of_mem_replicate hc]
    decide
  · exact printable_numeral.toDigits (by decide) (by decide) n

theorem printable_hex8 (n : UInt32) : Over printable (hex8 n) := printable_hexPad 8 n.toNat

theorem printable_hex4 (n : UInt16) : Over printable (hex4 n) := printable_hexPad 4 n.toNat

theorem printable_of_graphic (hlo : 0x20 ≤ c.toNat) (hhi : c.toNat ≤ 0x7e) :
    printable c = true := by
  simp only [printable, isControl, Bool.not_eq_true', Bool.or_eq_false_iff,
    Bool.and_eq_false_iff, decide_eq_false_iff_not]
  omega

theorem printable_escapeDefault (c : Char) :
    ∀ d ∈ escapeDefault c, printable d = true := by
  rw [escapeDefault]
  split_ifs with htab hreturn hnewline hquote hgraphic
  · exact List.all_eq_true.1 rfl
  · exact List.all_eq_true.1 rfl
  · exact List.all_eq_true.1 rfl
  · rcases hquote with rfl | rfl | rfl
    all_goals exact List.all_eq_true.1 rfl
  · intro d hd
    rw [List.mem_singleton.1 hd]
    exact printable_of_graphic hgraphic.1 hgraphic.2
  · rw [List.forall_mem_append, List.forall_mem_append]
    refine ⟨⟨List.all_eq_true.1 rfl, ?_⟩, List.all_eq_true.1 rfl⟩
    exact printable_numeral.toDigits (by decide) (by decide) c.toNat

theorem printable_escapeGuestString (value : String) : Over printable (escapeGuestString value) := by
  rw [escapeGuestString, over_ofList]
  intro d hd
  obtain ⟨c, _, hd⟩ := List.mem_flatMap.1 hd
  exact printable_escapeDefault c d hd

theorem printable_codeName (code : Int32) : Over printable (codeName code) := by
  have hnames : ∀ name ∈ Report.codeNames, Over printable name := by decide
  exact hnames _ (Report.codeName_mem code)

theorem GuestCall.printable_import (call : GuestCall) : Over printable call.import := by
  cases call
  all_goals
    simp only [GuestCall.import]
    decide

theorem AbiError.printable_gate (err : AbiError) : Over printable err.gate := by
  cases err
  all_goals
    simp only [gate]
    decide

theorem AbiError.printable_display (err : AbiError) (h : ∀ text, err ≠ .memoryRead text) :
    Over printable err.display := by
  cases err
  case memoryRead text => exact absurd rfl (h text)
  all_goals
    unfold display
    simp only [TextLength.toString_self, over_append, printable_numeral.nat,
      printable_numeral.uint16, printable_numeral.uint32, printable_numeral.uint64,
      printable_hex8, printable_escapeGuestString, and_true]
    decide

theorem RangeCheck.ne_memoryRead (h : RangeCheck ptr len align maxLen size (.error err)) :
    ∀ text, err ≠ .memoryRead text := by
  intro text heq
  subst heq
  cases h

theorem parsePacket_ne_memoryRead (h : parsePacket bytes = .error err) :
    ∀ text, err ≠ .memoryRead text := by
  intro text heq
  have hcheck := parsePacket_check bytes
  rw [h, heq] at hcheck
  cases hcheck with
  | rejected hcode =>
    change Abi.errInternal = Abi.errHeader at hcode
    exact absurd hcode (by decide)

/-- The range of a `read_cap` that is granted for a path. -/
structure GrantedPath (policy : Policy) (view : LinearMemory) (ptr len : UInt32)
    (path : String) : Prop where
  accepted : Accepted view ptr len 1 policy.maxCapStringLen
  bytes_eq : view.range ptr len = Utf8.bytes path
  allowed : path ∈ policy.allowedPaths

/-- The call is granted for a path with a control character. -/
def GuestCall.GrantsControl (call : GuestCall) (state : HostState) (store : Store) : Prop :=
  ∃ ptr len m path, call = .readCap ptr len ∧ state.memory = some m ∧
    GrantedPath state.policy (m.view store) ptr len path ∧ ¬Over printable path

def GatesPrintable (gates : List Gate) : Prop := ∀ gate ∈ gates, Over printable gate.name

instance (gates : List Gate) : Decidable (GatesPrintable gates) :=
  inferInstanceAs (Decidable (∀ gate ∈ gates, Over printable gate.name))

/-- An outcome with printable gates, and with a printable detail where it is to be one. -/
structure Logged (outcome : Outcome) (clean : Prop) : Prop where
  gates : GatesPrintable outcome.2.2.1
  detail_iff : Over printable outcome.2.2.2 ↔ clean

theorem GatesPrintable.append (h : GatesPrintable gates) (h' : GatesPrintable gates') :
    GatesPrintable (gates ++ gates') := List.forall_mem_append.2 ⟨h, h'⟩

theorem AbiError.printable_fail (err : AbiError) : GatesPrintable [.fail err.gate] := by
  intro gate h
  rw [List.mem_singleton.1 h]
  exact err.printable_gate

theorem refusedGates_printable (err : AbiError) : GatesPrintable (refusedGates err) := by
  have hpassed : ∀ name ∈ ["max_len", "alignment", "checked_add"], Over printable name := by
    decide
  apply GatesPrintable.append _ err.printable_fail
  intro gate h
  obtain ⟨name, hname, rfl⟩ := List.mem_map.1 h
  exact hpassed name (List.takeWhile_subset _ hname)

theorem Logged.rejected (code : Int32) (memorySize : Option UInt64) (before : String)
    {gates : List Gate} {err : AbiError} (hgates : GatesPrintable gates)
    (hbefore : Over printable before) (herr : ∀ text, err ≠ .memoryRead text) (hclean : clean) :
    Logged (code, memorySize, gates, before ++ err.display) clean :=
  ⟨hgates, iff_of_true (over_append.2 ⟨hbefore, err.printable_display herr⟩) hclean⟩

section
variable {memory : Option Memory} {store : Store} {ptr len align maxLen : UInt32}
  {gate : String} {judge : GuestBytes → Outcome} {access : Except GuestAccessErr Outcome}
  {clean : Prop}

theorem AccessAnswer.logged
    (h : AccessAnswer memory store ptr len align maxLen gate judge access)
    (hrefused : (¬∃ m, memory = some m ∧
      ValidRange ptr len align maxLen (m.view store).bytes.length) → clean)
    (hlent : ∀ m, memory = some m →
      ValidRange ptr len align maxLen (m.view store).bytes.length →
        Logged (judge ((m.view store).lend ptr len gate)) clean) :
    Logged (rangeOutcome access) clean := by
  have hrange : Over printable "range rejected: " := by decide
  cases h with
  | unmapped hnone =>
    apply Logged.rejected _ _ "range rejected: " (by decide) hrange
    · intro text heq
      cases heq
    · apply hrefused
      intro hvalid
      obtain ⟨m, hm, _⟩ := hvalid
      cases hnone.symm.trans hm
  | refused m hm err hcheck =>
    apply Logged.rejected _ _ "range rejected: " (refusedGates_printable err) hrange
      hcheck.ne_memoryRead
    apply hrefused
    intro hvalid
    obtain ⟨m', hm', hvalid⟩ := hvalid
    obtain rfl := Option.some.inj (hm.symm.trans hm')
    apply hcheck.not_valid
    rwa [(m.view store).toNat_dataSize]
  | lent m hm hvalid => exact hlent m hm hvalid

end

theorem validatePacketFromGuest_logged (guest : GuestBytes) (h : GatesPrintable guest.gates) :
    Logged (validatePacketFromGuest guest) True := by
  rw [validatePacketFromGuest]
  cases hparsed : parsePacket guest.bytes with
  | error err =>
    exact .rejected _ _ "packet rejected: " (h.append err.printable_fail) (by decide)
      (parsePacket_ne_memoryRead hparsed) trivial
  | ok packet =>
    refine ⟨h.append (by decide), iff_of_true ?_ trivial⟩
    simp only [TextLength.toString_self, over_append, printable_numeral.uint16,
      printable_numeral.uint32, printable_hex8, printable_hex4, and_true]
    decide

theorem writeMarkerToGuest_logged (guest : GuestBytes) (h : GatesPrintable guest.gates) :
    Logged (writeMarkerToGuest guest).1 True := by
  rw [writeMarkerToGuest]
  split
  · refine ⟨h.append (by decide), iff_of_true ?_ trivial⟩
    simp only [TextLength.toString_self, over_append, printable_hex8, and_true]
    decide
  · refine ⟨h.append (by decide), iff_of_true ?_ trivial⟩
    simp only [TextLength.toString_self, over_append, printable_numeral.nat, and_true]
    decide

theorem validateCapabilityFromGuest_logged (policy : Policy) (guest : GuestBytes)
    (h : GatesPrintable guest.gates) :
    Logged (validateCapabilityFromGuest policy guest)
      (∀ path ∈ policy.allowedPaths, guest.bytes = Utf8.bytes path → Over printable path) := by
  have hutf8 : GatesPrintable [.pass "utf8"] := by decide
  rw [validateCapabilityFromGuest]
  cases hdecoded : Utf8.fromUtf8 guest.bytes with
  | none =>
    apply Logged.rejected _ _ "string rejected: "
      (h.append AbiError.invalidUtf8.printable_fail) (by decide)
    · intro text heq
      cases heq
    · intro path _ hbytes
      exact absurd hbytes (Utf8.fromUtf8_eq_none_iff.1 hdecoded path)
  | some path =>
    have hbytes := Utf8.fromUtf8_eq_some_iff.1 hdecoded
    cases hallowed : policy.isPathAllowed path with
    | true =>
      simp only [hallowed, if_true]
      refine ⟨h.append (by decide), ?_⟩
      simp only [TextLength.toString_self, over_append, printable_hex8, and_true, and_assoc]
      constructor
      · intro hdetail path' _ hbytes'
        rw [← Utf8.bytes_injective (hbytes.symm.trans hbytes')]
        exact hdetail.2.2.2.2
      · intro hpath
        refine ⟨by decide, by decide, by decide, by decide, ?_⟩
        exact hpath path ((policy.isPathAllowed_iff path).1 hallowed) hbytes
    | false =>
      have hgates : GatesPrintable
          [.pass "utf8", .fail (AbiError.capabilityDenied path).gate] :=
        hutf8.append (AbiError.capabilityDenied path).printable_fail
      simp only [hallowed]
      apply Logged.rejected _ _ "path rejected: " (h.append hgates) (by decide)
      · intro text heq
        cases heq
      · intro path' hpath hbytes'
        rw [← Utf8.bytes_injective (hbytes.symm.trans hbytes'), ← policy.isPathAllowed_iff,
          hallowed] at hpath
        cases hpath

theorem not_grantsControl {call : GuestCall} {state : HostState} {store : Store}
    (h : call.import ≠ "host.read_cap") : ¬call.GrantsControl state store := by
  intro hgrants
  obtain ⟨ptr, len, _, _, rfl, _⟩ := hgrants
  exact h rfl

theorem lend_gates_printable (view : LinearMemory) (ptr len : UInt32) {gate : String}
    (h : Over printable gate) : GatesPrintable (view.lend ptr len gate).gates := by
  apply GatesPrintable.append
  · decide
  · intro g hg
    rw [List.mem_singleton.1 hg]
    exact h

theorem grantsControl_iff {state : HostState} {store : Store} {ptr len : UInt32} {m : Memory}
    (hm : state.memory = some m)
    (haccepted : Accepted (m.view store) ptr len 1 state.policy.maxCapStringLen) :
    ¬(GuestCall.readCap ptr len).GrantsControl state store ↔
      ∀ path ∈ state.policy.allowedPaths, (m.view store).range ptr len = Utf8.bytes path →
        Over printable path := by
  constructor
  · intro hnot path hallowed hbytes
    by_contra hcontrol
    exact hnot ⟨ptr, len, m, path, rfl, hm, ⟨haccepted, hbytes, hallowed⟩, hcontrol⟩
  · intro hpaths hgrants
    obtain ⟨ptr', len', m', path, hcall, hm', hgranted, hcontrol⟩ := hgrants
    obtain ⟨rfl, rfl⟩ := GuestCall.readCap.inj hcall
    obtain rfl := Option.some.inj (hm.symm.trans hm')
    exact hcontrol (hpaths path hgranted.allowed hgranted.bytes_eq)

/-- The event of a call: its detail is printable unless the call grants a path that is not. -/
structure ImportEvent.LoggedFor (event : ImportEvent) (call : GuestCall) (state : HostState)
    (store : Store) : Prop where
  import_eq : event.import = call.import
  gates : GatesPrintable event.gates
  detail_iff : Over printable event.detail ↔ ¬call.GrantsControl state store

theorem ImportEvent.LoggedFor.of_printable {event : ImportEvent} {call : GuestCall}
    {state : HostState} {store : Store} (himport : event.import = call.import)
    (hcall : call.import ≠ "host.read_cap") (hgates : GatesPrintable event.gates)
    (hdetail : Over printable event.detail) : event.LoggedFor call state store :=
  ⟨himport, hgates, iff_of_true hdetail (not_grantsControl hcall)⟩

section
variable [HostArch] (state : HostState) (store : Store) (ptr len align : UInt32)
  (elapsedUs : U128)

theorem acceptPacket_logged :
    Logged (rangeOutcome (withGuestBytes state.memory store ptr len align
      state.policy.maxPacketLen validatePacketFromGuest)) True := by
  apply (withGuestBytes_answer state.memory store ptr len align state.policy.maxPacketLen
    validatePacketFromGuest).logged
  · exact fun _ => trivial
  · intro m _ _
    exact validatePacketFromGuest_logged _ (lend_gates_printable _ ptr len (by decide))

theorem writeMarker_logged :
    Logged (rangeOutcome (withGuestBytesMut state.memory store ptr len align
      (UInt32.ofNat hostWriteMarkerBytes.length) writeMarkerToGuest).1) True := by
  apply (withGuestBytesMut_answer state.memory store ptr len align
    (UInt32.ofNat hostWriteMarkerBytes.length) writeMarkerToGuest).logged
  · exact fun _ => trivial
  · intro m _ _
    exact writeMarkerToGuest_logged _ (lend_gates_printable _ ptr len (by decide))

theorem readCap_logged :
    Logged (rangeOutcome (withGuestBytes state.memory store ptr len 1
        state.policy.maxCapStringLen (validateCapabilityFromGuest state.policy)))
      (¬(GuestCall.readCap ptr len).GrantsControl state store) := by
  apply (withGuestBytes_answer state.memory store ptr len 1 state.policy.maxCapStringLen
    (validateCapabilityFromGuest state.policy)).logged
  · intro hnone hgrants
    obtain ⟨ptr', len', m, path, hcall, hm, hgranted, _⟩ := hgrants
    obtain ⟨rfl, rfl⟩ := GuestCall.readCap.inj hcall
    exact hnone ⟨m, hm, accepted_iff_validRange.1 hgranted.accepted⟩
  · intro m hm hvalid
    rw [grantsControl_iff hm (accepted_iff_validRange.2 hvalid)]
    exact validateCapabilityFromGuest_logged state.policy _
      (lend_gates_printable _ ptr len (by decide))

omit [HostArch] in
theorem hostAllocCap_logged (requested : UInt32) :
    ∃ event : ImportEvent, event.LoggedFor (.allocCap requested) state store ∧
      (hostAllocCap state requested elapsedUs).2.telemetry.events =
        state.telemetry.events ++ [event] := by
  have hcall : "host.alloc_cap" ≠ "host.read_cap" := by decide
  have hgates : GatesPrintable [.pass "alloc.cap"] := by decide
  by_cases hlarge : requested > state.policy.maxAlloc
  · simp only [hostAllocCap, if_pos hlarge]
    refine ⟨_, .of_printable rfl hcall (AbiError.printable_fail _) ?_, rfl⟩
    apply over_append.2 ⟨by decide, AbiError.printable_display _ _⟩
    intro text heq
    cases heq
  · simp only [hostAllocCap, if_neg hlarge]
    refine ⟨_, .of_printable rfl hcall hgates ?_, rfl⟩
    simp only [TextLength.toString_self, over_append, printable_numeral.uint32, and_true]
    decide

omit [HostArch] in
theorem hostTick_logged :
    ∃ recorded, (hostTick state elapsedUs).2.telemetry.events =
        state.telemetry.events ++ recorded ∧
      ∀ event ∈ recorded, event.LoggedFor .tick state store := by
  have hcall : "host.tick" ≠ "host.read_cap" := by decide
  have hgates : GatesPrintable [.pass "fuel"] := by decide
  by_cases hfuel : state.countTick.fuelRemaining = 0
  · simp only [hostTick, hfuel, if_true]
    refine ⟨[_], rfl, List.forall_mem_singleton.2 ?_⟩
    refine .of_printable rfl hcall (AbiError.printable_fail _) ?_
    simp only [TextLength.toString_self, over_append, printable_numeral.uint32, and_true]
    decide
  · cases hlogged : shouldRecordTick state.countTick.telemetry.ticksSeen Abi.ok with
    | true =>
      simp only [hostTick, hfuel, if_false, hlogged, if_true]
      refine ⟨[_], rfl, List.forall_mem_singleton.2 ?_⟩
      refine .of_printable rfl hcall hgates ?_
      simp only [TextLength.toString_self, over_append, printable_numeral.uint32, and_true]
      decide
    | false =>
      rw [hostTick_silent state elapsedUs hfuel hlogged]
      exact ⟨[], (List.append_nil _).symm, List.forall_mem_nil _⟩

theorem perform_logged (call : GuestCall) :
    ∃ recorded, (call.perform state store elapsedUs).2.1.telemetry.events =
        state.telemetry.events ++ recorded ∧
      (∀ event ∈ recorded, event.LoggedFor call state store) ∧
      (call.GrantsControl state store → recorded ≠ []) := by
  have hsome (event : ImportEvent) : call.GrantsControl state store → [event] ≠ [] :=
    fun _ => List.cons_ne_nil event []
  cases call with
  | acceptPacket ptr len align =>
    have hlogged := acceptPacket_logged state store ptr len align
    refine ⟨[_], rfl, List.forall_mem_singleton.2 ?_, hsome _⟩
    exact .of_printable rfl (show "host.accept_packet" ≠ "host.read_cap" by decide)
      hlogged.gates (hlogged.detail_iff.2 trivial)
  | readCap ptr len =>
    have hlogged := readCap_logged state store ptr len
    refine ⟨[_], rfl, List.forall_mem_singleton.2 ?_, hsome _⟩
    exact ⟨rfl, hlogged.gates, hlogged.detail_iff⟩
  | allocCap requested =>
    obtain ⟨event, hlogged, hrecord⟩ := hostAllocCap_logged state store elapsedUs requested
    exact ⟨[event], hrecord, List.forall_mem_singleton.2 hlogged, hsome event⟩
  | writeMarker ptr len align =>
    have hlogged := writeMarker_logged state store ptr len align
    refine ⟨[_], rfl, List.forall_mem_singleton.2 ?_, hsome _⟩
    exact .of_printable rfl (show "host.write_marker" ≠ "host.read_cap" by decide)
      hlogged.gates (hlogged.detail_iff.2 trivial)
  | tick =>
    obtain ⟨recorded, hrecord, hlogged⟩ := hostTick_logged state store elapsedUs
    refine ⟨recorded, hrecord, hlogged, ?_⟩
    intro hgrants
    exact absurd hgrants (not_grantsControl (show "host.tick" ≠ "host.read_cap" by decide))

end

/-- Some lines stand in a text as they are. -/
def WholeLines (lines : List String) (text : String) : Prop :=
  lines.map String.toList <:+: Text.lines text.toList

theorem printable_line {line : String} (h : Over printable line) :
    '\n' ∉ line.toList ∧ '\r' ∉ line.toList := by
  constructor
  · intro hbreak
    exact absurd (h _ hbreak) (by decide)
  · intro hreturn
    exact absurd (h _ hreturn) (by decide)

theorem wholeLines_of_printable {lines : List String} {text before after : String}
    (h : ∀ line ∈ lines, Over printable line) (hbefore : Text.Complete '\n' before.toList)
    (heq : text = before ++ (Text.unlines lines ++ after)) : WholeLines lines text := by
  have hbetween : ∀ line ∈ lines.map String.toList, '\n' ∉ line ∧ '\r' ∉ line := by
    intro line hline
    obtain ⟨line', hline', rfl⟩ := List.mem_map.1 hline
    exact printable_line (h line' hline')
  have hlines := Text.lines_append_lines hbefore hbetween after.toList
  rw [← Text.toList_unlines, ← String.toList_append, ← String.toList_append, ← heq,
    ← List.append_assoc] at hlines
  exact ⟨_, _, hlines.symm⟩

namespace Report

section
variable [HostArch]

theorem textCase_endsLine (report : CaseReport) : Text.EndsLine (textCase report) := by
  have hbreak : Text.EndsLine "\n" := rfl
  rw [textCase]
  exact (hbreak.append_left _).append_left _

theorem renderTextCase_complete (report : CaseReport) :
    Text.Complete '\n' (renderTextCase report).toList := by
  have hbreak : Text.EndsLine "\n" := rfl
  rw [renderTextCase]
  apply (textCase_endsLine report).complete.string_append
  split
  · exact (hbreak.append_left _).complete
  · exact .inl rfl

theorem markdownCase_endsLine (report : CaseReport) : Text.EndsLine (markdownCase report) := by
  have hbreak : Text.EndsLine "us\n" := rfl
  rw [markdownCase]
  exact (hbreak.append_left _).append_left _

theorem markdownEvidence_endsLine (report : CaseReport) :
    Text.EndsLine (markdownEvidence report) := by
  have hbreak : Text.EndsLine "\n" := rfl
  rw [markdownEvidence]
  exact hbreak.append_left _

theorem textHeader_endsLine (reports : List CaseReport) (policy : Policy) :
    Text.EndsLine (textHeader reports policy) := by
  have hbreak : Text.EndsLine "\n\n" := rfl
  unfold textHeader
  exact (hbreak.append_left _).append_left _

theorem join_split {render : CaseReport → String} (above : List CaseReport) (report : CaseReport)
    (below : List CaseReport) :
    String.join ((above ++ report :: below).map render) =
      String.join (above.map render) ++ (render report ++ String.join (below.map render)) := by
  rw [List.map_append, List.map_cons, String.join_append, String.join_cons]

theorem renderTextReport_split (above : List CaseReport) {report : CaseReport}
    (below : List CaseReport) (policy : Policy) {event : ImportEvent}
    (hlast : report.telemetry.events.getLast? = some event) :
    ∃ before after, Text.Complete '\n' before.toList ∧
      renderTextReport (above ++ report :: below) policy =
        before ++ (Text.unlines [textBoundary event] ++ after) := by
  have hcase : renderTextCase report = textCase report ++ Text.unlines [textBoundary event] := by
    rw [renderTextCase, hlast]
    change _ = textCase report ++ String.join [textBoundary event ++ "\n"]
    rw [String.join_cons, String.join_nil, String.append_empty]
  have habove := Text.Complete.join renderTextCase_complete above
  refine ⟨textHeader (above ++ report :: below) policy ++
    (String.join (above.map renderTextCase) ++ textCase report),
    String.join (below.map renderTextCase) ++ textSummary (above ++ report :: below), ?_, ?_⟩
  · exact (textHeader_endsLine _ policy).complete.string_append
      (habove.string_append (textCase_endsLine report).complete)
  · rw [renderTextReport, join_split, hcase]
    simp only [String.append_assoc]

theorem renderMarkdownReport_split (above : List CaseReport) {report : CaseReport}
    (below : List CaseReport) (policy : Policy) {event : ImportEvent}
    (hlast : report.telemetry.events.getLast? = some event) :
    ∃ before after, Text.Complete '\n' before.toList ∧
      renderMarkdownReport (above ++ report :: below) policy =
        before ++ (Text.unlines (markdownBoundary event) ++ after) := by
  have hcase : markdownEvidence report =
      markdownCase report ++ Text.unlines (markdownBoundary event) ++ "\n" := by
    rw [markdownEvidence, hlast]
  have habove := Text.Complete.join (fun report => (markdownEvidence_endsLine report).complete) above
  refine ⟨Text.unlines (markdownSummary (above ++ report :: below) policy) ++
    Text.unlines ("## Cases" :: "" :: markdownTable (above ++ report :: below)) ++
    Text.unlines ["", "## Evidence", ""] ++
    (String.join (above.map markdownEvidence) ++ markdownCase report),
    "\n" ++ String.join (below.map markdownEvidence), ?_, ?_⟩
  · have hsummary := Text.unlines_complete (markdownSummary (above ++ report :: below) policy)
    have htable := Text.unlines_complete
      ("## Cases" :: "" :: markdownTable (above ++ report :: below))
    have hevidence := Text.unlines_complete ["", "## Evidence", ""]
    exact ((hsummary.string_append htable).string_append hevidence).string_append
      (habove.string_append (markdownCase_endsLine report).complete)
  · rw [renderMarkdownReport, join_split, hcase]
    simp only [String.append_assoc]

end

theorem printable_decision (event : ImportEvent) : Over printable event.decision := by
  have hwords : ∀ word ∈ ["ALLOW", "DENY"], Over printable word := by decide
  exact hwords _ (decision_mem event)

theorem printable_gatesPlain {gates : List Gate} (h : GatesPrintable gates) :
    Over printable (gatesPlain gates) := by
  have hcomma : Over printable ", " := by decide
  apply hcomma.intercalate
  intro text htext
  obtain ⟨gate, hgate, rfl⟩ := List.mem_map.1 htext
  have hstatus : Over printable (if gate.passed then "ok" else "fail") := by
    split
    · decide
    · decide
  simp only [TextLength.toString_self, over_append, h gate hgate, hstatus, and_true, true_and]
  decide

section
variable {event : ImportEvent} {call : GuestCall} {state : HostState} {store : Store}
  (h : event.LoggedFor call state store) (hdetail : Over printable event.detail)
include h hdetail

theorem printable_textBoundary : Over printable (textBoundary event) := by
  have himport : Over printable event.import := h.import_eq ▸ call.printable_import
  unfold textBoundary
  simp only [TextLength.toString_self, over_append, himport, hdetail,
    printable_decision, printable_codeName, printable_gatesPlain h.gates, and_true]
  decide

theorem printable_markdownBoundary : ∀ line ∈ markdownBoundary event, Over printable line := by
  have himport : Over printable event.import := h.import_eq ▸ call.printable_import
  simp only [markdownBoundary, List.forall_mem_cons, List.not_mem_nil, false_imp_iff,
    implies_true, TextLength.toString_self, over_append, himport, hdetail, printable_decision,
    printable_codeName, printable_gatesPlain h.gates, and_true]
  decide

end

end Report

/-- The detail of an event has no control character, and the event is on lines of its own in
every report that shows it. -/
structure ImportEvent.StaysOnLine [HostArch] (event : ImportEvent) : Prop where
  printable : Over printable event.detail
  text : ∀ (reports : List CaseReport) (policy : Policy), ∀ report ∈ reports,
    report.telemetry.events.getLast? = some event →
      WholeLines [Report.textBoundary event] (Report.renderTextReport reports policy)
  markdown : ∀ (reports : List CaseReport) (policy : Policy), ∀ report ∈ reports,
    report.telemetry.events.getLast? = some event →
      WholeLines (Report.markdownBoundary event) (Report.renderMarkdownReport reports policy)

section
variable [HostArch]

theorem staysOnLine_iff {event : ImportEvent} {call : GuestCall} {state : HostState}
    {store : Store} (h : event.LoggedFor call state store) :
    event.StaysOnLine ↔ ¬call.GrantsControl state store := by
  rw [← h.detail_iff]
  constructor
  · exact fun hline => hline.printable
  · intro hdetail
    refine ⟨hdetail, ?_, ?_⟩
    · intro reports policy report hmem hlast
      obtain ⟨above, below, rfl⟩ := List.append_of_mem hmem
      obtain ⟨before, after, hbefore, heq⟩ :=
        Report.renderTextReport_split above below policy hlast
      apply wholeLines_of_printable _ hbefore heq
      exact List.forall_mem_singleton.2 (Report.printable_textBoundary h hdetail)
    · intro reports policy report hmem hlast
      obtain ⟨above, below, rfl⟩ := List.append_of_mem hmem
      obtain ⟨before, after, hbefore, heq⟩ :=
        Report.renderMarkdownReport_split above below policy hlast
      exact wholeLines_of_printable (Report.printable_markdownBoundary h hdetail) hbefore heq

/-- What a call records stays on its line just when the call does not grant a path with a control
character. -/
theorem log_lines_iff (call : GuestCall) (state : HostState) (store : Store) (elapsedUs : U128) :
    ∃ recorded, (call.perform state store elapsedUs).2.1.telemetry.events =
        state.telemetry.events ++ recorded ∧
      ((∀ event ∈ recorded, event.StaysOnLine) ↔ ¬call.GrantsControl state store) := by
  obtain ⟨recorded, hrecord, hlogged, hsome⟩ := perform_logged state store elapsedUs call
  refine ⟨recorded, hrecord, ?_⟩
  constructor
  · intro hlines hgrants
    obtain ⟨event, hevent⟩ := List.exists_mem_of_ne_nil recorded (hsome hgrants)
    exact (staysOnLine_iff (hlogged event hevent)).1 (hlines event hevent) hgrants
  · intro hclean event hevent
    exact (staysOnLine_iff (hlogged event hevent)).2 hclean

end

def twoLineMemory : LinearMemory where
  bytes := Utf8.bytes "/a\nb"
  size_le := by decide

def twoLinePolicy : Policy := { Policy.default with allowedPaths := ["/a\nb"] }

theorem twoLine_details :
    letI := HostArch.x86_64
    ((GuestCall.readCap 0 4).perform
      { HostState.new twoLinePolicy with memory := some ⟨0⟩ } (fun _ => twoLineMemory)
      1).2.1.telemetry.events.map ImportEvent.detail =
        ["path capability allowed ptr=0x00000000 end=0x00000004 path=/a\nb"] := by
  decide +kernel

/-- The policy file spells the line break of its path as an escape. -/
theorem allowed_path_breaks_line :
    letI := HostArch.x86_64
    Policy.parse "allowed_paths = [\"/a\\nb\"]\n" = .ok twoLinePolicy ∧
      ∃ event, ((GuestCall.readCap 0 4).perform
          { HostState.new twoLinePolicy with memory := some ⟨0⟩ } (fun _ => twoLineMemory)
          1).2.1.telemetry.events = [event] ∧
        event.detail = "path capability allowed ptr=0x00000000 end=0x00000004 path=/a\nb" ∧
        '\n' ∈ event.detail.toList ∧ ¬event.StaysOnLine := by
  have hcontrol : ¬Over printable
      "path capability allowed ptr=0x00000000 end=0x00000004 path=/a\nb" := by decide
  obtain ⟨event, hevents, hdetail⟩ := List.map_eq_singleton_iff.1 twoLine_details
  refine ⟨by decide, event, hevents, hdetail, ?_, ?_⟩
  · rw [hdetail]
    decide
  · intro hline
    let _ := HostArch.x86_64
    exact hcontrol (hdetail ▸ hline.printable)

end WasmerSectest
