import PutGateway.System.StatusReports
import Mathlib.Data.List.DropRight
/-!
# What the web reports of the events

Every error adds a line to `events.jsonl`, and the web shows the last of
them. A line is a text of JSON with no end of line in it
(`eventLine_eventPieces`), so the lines of the file are the events, and
none is broken or lost (`events_reported`).
-/

namespace PutGateway

namespace System

open Json Linux Web

/-! ## Lines -/

/-- A line of the file, with the event it encodes. -/
def EventLine (bytes : List UInt8) (event : EventRecord) : Prop :=
  ∃ line, bytes = JsonString.utf8 (line ++ ['\n']) ∧ '\n' ∉ line ∧ line.getLast? ≠ some '\r' ∧
    trim (String.ofList line) ≠ "" ∧
      ∃ v, Text (JsonString.utf8 line) v ∧ EventRecord.Encodes v event

/-- A file of lines, with their events. -/
inductive EventFile : List UInt8 → List EventRecord → Prop
  | nil : EventFile [] []
  | cons {bytes rest : List UInt8} {event : EventRecord} {events : List EventRecord} :
      EventLine bytes event → EventFile rest events → EventFile (bytes ++ rest) (event :: events)

variable {file rest bytes : List UInt8} {events events' : List EventRecord} {event : EventRecord}
  {fromStr : List Char → Option EventRecord}

theorem EventFile.append (h : EventFile file events) (h' : EventFile rest events') :
    EventFile (file ++ rest) (events ++ events') := by
  induction h with
  | nil => exact h'
  | cons hline _ ih =>
    rw [List.append_assoc, List.cons_append]
    exact .cons hline ih

theorem splitInclusive_line {line : List Char} (h : '\n' ∉ line) (rest : List Char) :
    splitInclusive (line ++ '\n' :: rest) = (line ++ ['\n']) :: splitInclusive rest := by
  induction line with
  | nil => rfl
  | cons c line ih =>
    rw [List.mem_cons, not_or] at h
    rw [List.cons_append, splitInclusive, if_neg (Ne.symm h.1), ih h.2]
    rfl

theorem stripLineEnd_line {line : List Char} (h : line.getLast? ≠ some '\r') :
    stripLineEnd (line ++ ['\n']) = line := by
  rw [stripLineEnd, if_pos (by rw [List.getLast?_concat]), List.dropLast_concat, if_neg h]

/-- The lines of a file of events are read as the events. -/
theorem EventFile.lines (hserde : ReadsTexts fromStr EventRecord.Encodes)
    (h : EventFile file events) :
    ∃ text, file = JsonString.utf8 text ∧
      (∀ line ∈ lines text, trim (String.ofList line) ≠ "") ∧
      (Web.lines text).map fromStr = events.map some := by
  induction h with
  | nil =>
    refine ⟨[], rfl, ?_, rfl⟩
    intro line hline
    cases hline
  | @cons bytes rest event events hline _ ih =>
    obtain ⟨line, rfl, hnewline, hreturn, hblank, v, htext, hencodes⟩ := hline
    obtain ⟨text, rfl, hblanks, hreads⟩ := ih
    have hlines : Web.lines (line ++ '\n' :: text) = line :: Web.lines text := by
      rw [Web.lines, splitInclusive_line hnewline, List.map_cons, stripLineEnd_line hreturn]
      rfl
    refine ⟨line ++ '\n' :: text, ?_, ?_, ?_⟩
    · simp only [JsonString.utf8, List.flatMap_append, List.flatMap_cons, List.flatMap_nil,
        List.append_assoc, List.append_nil]
    · rw [hlines, List.forall_mem_cons]
      exact ⟨hblank, hblanks⟩
    · rw [hlines, List.map_cons, hserde line v event htext hencodes, hreads, List.map_cons]

/-! ## The loop of the reader -/

/-- Where every line is an event, the loop takes so many of them. -/
theorem readEventsFrom_eq (limit : ℕ) {lines : List (List Char)} {events : List EventRecord}
    (hblank : ∀ line ∈ lines, trim (String.ofList line) ≠ "")
    (hread : lines.map fromStr = events.map some)
    (taken : List EventRecord) (parseErrorCount : ℕ) :
    readEventsFrom fromStr limit lines taken parseErrorCount =
      (taken ++ events.take (limit - taken.length), parseErrorCount) := by
  induction lines generalizing events taken with
  | nil =>
    cases events with
    | nil => rw [readEventsFrom, List.take_nil, List.append_nil]
    | cons event events => cases hread
  | cons line lines ih =>
    cases events with
    | nil => cases hread
    | cons event events =>
    rw [List.forall_mem_cons] at hblank
    rw [List.map_cons, List.map_cons, List.cons.injEq] at hread
    rw [readEventsFrom]
    by_cases hfull : taken.length ≥ limit
    · rw [if_pos hfull, Nat.sub_eq_zero_of_le hfull, List.take_zero, List.append_nil]
    · obtain ⟨k, hk⟩ : ∃ k, limit - taken.length = k + 1 := ⟨limit - taken.length - 1, by omega⟩
      have hlength : limit - (taken ++ [event]).length = k := by
        rw [List.length_append, List.length_singleton]
        omega
      rw [if_neg hfull, if_neg hblank.1, hread.1]
      simp only [ih hblank.2 hread.2, hlength, hk, List.take_succ_cons, List.append_assoc,
        List.singleton_append]

/-- **The web shows the last events of a file**, so many as it is asked
for. -/
theorem readEvents_of_file (hserde : ReadsTexts fromStr EventRecord.Encodes)
    (h : EventFile file events) (limit : ℕ) :
    readEvents fromStr (some file) limit =
      { events := events.rtake (max 1 (min limit 500)), parseErrorCount := 0 } := by
  obtain ⟨text, rfl, hblank, hread⟩ := h.lines hserde
  have hreverse : (Web.lines text).reverse.map fromStr = events.reverse.map some := by
    rw [List.map_reverse, hread, List.map_reverse]
  have hloop := readEventsFrom_eq (max 1 (min limit 500))
    (fun line hline => hblank line (List.mem_reverse.mp hline)) hreverse [] 0
  rw [readEvents, readToString_utf8]
  simp only [hloop, List.nil_append, List.length_nil, Nat.sub_zero, List.rtake_eq_reverse_take_reverse]

/-! ## The line of an error -/

/-- The bytes of a line: ASCII, and no end of line. -/
def InLine (bytes : List UInt8) : Prop := bytes.all fun b => b < 128 && b ≠ 0x0A

instance : DecidablePred InLine := fun bytes =>
  inferInstanceAs (Decidable ((bytes.all fun b => b < 128 && b ≠ 0x0A) = true))

theorem inLine_iff : InLine bytes ↔ ∀ b ∈ bytes, b < 128 ∧ b ≠ 0x0A := by
  simp only [InLine, List.all_eq_true, Bool.and_eq_true, decide_eq_true_eq]

theorem InLine.append {a b : List UInt8} (ha : InLine a) (hb : InLine b) : InLine (a ++ b) := by
  rw [InLine, List.all_append, Bool.and_eq_true]
  exact ⟨ha, hb⟩

theorem inLine_digit : ∀ n < 256, isDigit (UInt8.ofNat n) →
    UInt8.ofNat n < 128 ∧ UInt8.ofNat n ≠ 0x0A := by
  decide +kernel

theorem inLine_decimal (n : ℕ) : InLine (decimal n) := by
  rw [inLine_iff]
  intro b hb
  have hdigit := List.all_eq_true.mp (all_isDigit_decimal n) b hb
  have hbyte := inLine_digit b.toNat b.toNat_lt
  rw [UInt8.ofNat_toNat] at hbyte
  exact hbyte hdigit

theorem inLine_jsonByte : ∀ n < 128, InLine (fprintJsonByte (UInt8.ofNat n)) := by
  decide +kernel

/-- A string is written on one line, whatever it has in it. -/
theorem inLine_fprintJsonString {text : List UInt8} (h : IsAscii text) :
    InLine (fprintJsonString (some text)) := by
  have hquote : InLine [0x22] := by decide
  have hascii := isAscii_iff.mp h
  rw [fprintJsonString, Option.getD_some, fprintJsonBytes_of_ne fun b hb => (hascii b hb).1]
  refine hquote.append (InLine.append ?_ hquote)
  rw [inLine_iff]
  intro b hb
  obtain ⟨p, hp, hmem⟩ := List.mem_flatMap.mp hb
  have hbyte := inLine_jsonByte p.toNat (UInt8.lt_iff_toNat_lt.mp (hascii p hp).2)
  rw [UInt8.ofNat_toNat] at hbyte
  exact inLine_iff.mp hbyte b hmem

theorem trim_ne {c : Char} (line : List Char) (h : isWhitespace c = false) :
    trim (String.ofList (c :: line)) ≠ "" := by
  intro hempty
  have hlist := congrArg String.toList hempty
  rw [Web.trim, String.toList_ofList, String.toList_ofList, List.dropWhile_cons_of_neg (by simp [h]),
    String.toList_empty, List.rdropWhile_eq_nil_iff] at hlist
  have hc := hlist c List.mem_cons_self
  rw [h] at hc
  cases hc

variable (now : UInt64) (c : StatusCollector) (id : StatusModuleId) (stage : Option (List UInt8))
  (err : UnifiedError)

/-- The pieces of a line, without its end. -/
def eventBody : List Piece :=
  (eventPieces now c id stage err).dropLast ++ [.text "\x7d"]

theorem fprintf_eventPieces :
    fprintf (eventPieces now c id stage err) = fprintf (eventBody now c id stage err) ++ [0x0A] := by
  have hend : ascii "\x7d\n" = ascii "\x7d" ++ [0x0A] := rfl
  simp only [fprintf, eventBody, eventPieces, List.dropLast, List.flatMap_cons, List.flatMap_nil,
    List.cons_append, List.nil_append, List.append_nil, Piece.bytes, hend, List.append_assoc]

/-- What the web reports of an error. -/
def reportedEvent : EventRecord where
  timestampMs := now
  level := "warn"
  source := "adapter"
  message := "pipeline error"
  detail := textOf (snprintf (statusCollectorTextMax * 2)
    (ascii "module=" ++ ascii (statusModuleName id) ++ ascii " stage=" ++
      stage.getD (ascii "unknown") ++ ascii " error=" ++ formatD (unifiedErrorCode err)))

variable {c stage}

theorem isAscii_eventDetail (hc : Named c) (hstage : IsAscii (stage.getD [])) :
    IsAscii (eventDetail c id stage err) := by
  have hname : IsAscii (c.modules id).name := (hc.ascii id).1
  have hget : IsAscii (stage.getD (ascii "unknown")) := by
    cases stage with
    | none => decide
    | some stage => exact hstage
  refine IsAscii.snprintf ?_ _
  exact ((((IsAscii.append (by decide) hname).append (by decide)).append hget).append
    (by decide)).append (isAscii_formatD err)

theorem inLine_eventBody (hc : Named c) (hstage : IsAscii (stage.getD [])) :
    InLine (fprintf (eventBody now c id stage err)) := by
  have hdetail := inLine_fprintJsonString (isAscii_eventDetail id err hc hstage)
  have hmessage : InLine (fprintJsonString (some (ascii "pipeline error"))) := by decide
  have hfirst : InLine (ascii "\x7b\"timestamp_ms\":") := by decide
  have hsecond : InLine (ascii ",\"level\":\"warn\",\"source\":\"adapter\",\"message\":") := by
    decide
  have hthird : InLine (ascii ",\"detail\":") := by decide
  have hlast : InLine (ascii "\x7d") := by decide
  simp only [fprintf, eventBody, eventPieces, List.dropLast, List.flatMap_cons, List.flatMap_nil,
    List.cons_append, List.nil_append, List.append_nil, Piece.bytes]
  exact hfirst.append ((inLine_decimal _).append
    (hsecond.append (hmessage.append (hthird.append (hdetail.append hlast)))))

theorem text_eventBody (hc : Named c) (hstage : IsAscii (stage.getD [])) :
    Text (fprintf (eventBody now c id stage err)) (eventValue now c id stage err) := by
  refine lexes_fprintf rfl ?_
  have hdetail := isAscii_eventDetail id err hc hstage
  have hmessage : IsAscii (ascii "pipeline error") := by decide
  simp only [eventBody, eventPieces, List.dropLast, List.cons_append, List.nil_append,
    List.forall_mem_cons, Piece.Fits, true_and, List.not_mem_nil, false_implies, implies_true,
    and_true]
  exact ⟨hmessage, hdetail⟩

theorem encodes_eventValue (hc : Named c) :
    EventRecord.Encodes (eventValue now c id stage err) (reportedEvent now id stage err) := by
  have hdetail : (reportedEvent now id stage err).detail = textOf (eventDetail c id stage err) := by
    rw [eventDetail, (hc id).1]
    rfl
  refine ⟨_, rfl, .of_sublist (List.Sublist.refl _) (by decide),
    { timestampMs := encodes_u64Value _
      level := encodes_stringValue _
      source := encodes_stringValue _
      message := encodes_stringValue _
      detail := ?_ }⟩
  rw [hdetail]
  exact encodes_stringValue _

/-- **The line of an error encodes the error.** -/
theorem eventLine_eventPieces (hc : Named c) (hstage : IsAscii (stage.getD [])) :
    EventLine (fprintf (eventPieces now c id stage err)) (reportedEvent now id stage err) := by
  have hinline := inLine_iff.mp (inLine_eventBody now id err hc hstage)
  have hutf8 := utf8_chars fun b hb => (hinline b hb).1
  refine ⟨chars (fprintf (eventBody now c id stage err)), ?_, ?_, ?_, ?_,
    eventValue now c id stage err, ?_, encodes_eventValue now id err hc⟩
  · rw [fprintf_eventPieces, JsonString.utf8, List.flatMap_append, ← JsonString.utf8, hutf8]
    rfl
  · intro hmem
    obtain ⟨b, hb, hnewline⟩ := List.mem_map.mp hmem
    have hnat := congrArg Char.toNat hnewline
    rw [toNat_char] at hnat
    exact (hinline b hb).2 (UInt8.toNat_inj.mp hnat)
  · have hlast : (fprintf (eventBody now c id stage err)).getLast? = some 0x7D := by
      rw [eventBody, fprintf, List.flatMap_append]
      exact List.getLast?_concat
    rw [chars, List.getLast?_map, hlast]
    decide
  · have hfirst : ∃ rest, fprintf (eventBody now c id stage err) = 0x7B :: rest := ⟨_, rfl⟩
    obtain ⟨rest, hrest⟩ := hfirst
    rw [hrest]
    exact trim_ne _ (by decide)
  · rw [hutf8]
    exact text_eventBody now id err hc hstage

/-! ## The events of a run -/

/-- The errors of a run that reach the file: the collector is enabled, and
the file opens. -/
def recordedEvents : Bool → List (UInt64 × CollectorCall) → List EventRecord
  | _, [] => []
  | _, (_, .init enabled) :: calls => recordedEvents enabled calls
  | enabled, (now, .recordError id stage err opened) :: calls =>
    (if enabled ∧ opened then [reportedEvent now id stage err] else []) ++
      recordedEvents enabled calls
  | enabled, _ :: calls => recordedEvents enabled calls

variable {s : StatusState}

/-- A call adds the lines of its events. -/
theorem eventFile_call (hs : s.collector.enabled → Named s.collector)
    (hfile : EventFile (s.dir.eventsJsonl.getD []) events) {call : UInt64 × CollectorCall}
    (hcall : call.2.Ascii) (calls : List (UInt64 × CollectorCall)) :
    ∃ new, EventFile ((s.call call).dir.eventsJsonl.getD []) (events ++ new) ∧
      recordedEvents s.collector.enabled (call :: calls) =
        new ++ recordedEvents (s.call call).collector.enabled calls := by
  obtain ⟨now, call⟩ := call
  cases call with
  | recordError id stage err opened =>
    refine ⟨if s.collector.enabled ∧ opened then [reportedEvent now id stage err] else [], ?_, rfl⟩
    simp only [StatusState.call, callDir]
    by_cases hopen : s.collector.enabled ∧ opened
    · rw [if_pos hopen, if_pos hopen, Option.getD_some, appendEventJsonlLocked]
      have hline := eventLine_eventPieces now id err (hs hopen.1) hcall
      have hone := EventFile.cons hline .nil
      rw [List.append_nil] at hone
      exact hfile.append hone
    · rw [if_neg hopen, if_neg hopen, List.append_nil]
      exact hfile
  | writeAll modules ipcStatus routeStatus =>
    refine ⟨[], ?_, ?_⟩
    · rw [List.append_nil]
      simp only [StatusState.call, callDir]
      split <;> exact hfile
    · simp only [StatusState.call, callCollector, recordedEvents, List.nil_append]
      split <;> rfl
  | _ =>
    refine ⟨[], ?_, rfl⟩
    rw [List.append_nil]
    exact hfile

theorem named_call (hs : s.collector.enabled → Named s.collector) {call : UInt64 × CollectorCall}
    (hcall : call.2.Ascii) :
    (s.call call).collector.enabled → Named (s.call call).collector := by
  intro henabled
  obtain ⟨now, call⟩ := call
  have hkeep : s.collector.enabled → Named (callCollector now s.collector call) :=
    fun h => (hs h).callCollector hcall
  cases call with
  | init enabled => exact named_init enabled
  | writeAll modules ipcStatus routeStatus =>
    refine hkeep ?_
    simp only [StatusState.call, callCollector] at henabled
    split at henabled <;> exact henabled
  | _ => exact hkeep henabled

theorem eventFile_run (hs : s.collector.enabled → Named s.collector)
    {calls : List (UInt64 × CollectorCall)} (hascii : ∀ call ∈ calls, call.2.Ascii)
    (hfile : EventFile (s.dir.eventsJsonl.getD []) events) :
    EventFile ((s.run calls).dir.eventsJsonl.getD [])
      (events ++ recordedEvents s.collector.enabled calls) := by
  induction calls generalizing s events with
  | nil =>
    rw [recordedEvents, List.append_nil]
    exact hfile
  | cons call calls ih =>
    rw [List.forall_mem_cons] at hascii
    obtain ⟨new, hnew, hrecorded⟩ := eventFile_call hs hfile hascii.1 calls
    rw [hrecorded, ← List.append_assoc]
    exact ih (named_call hs hascii.1) hascii.2 hnew

/-- A file that is not there is read as one with nothing in it. -/
theorem readEvents_getD (hserde : ReadsTexts fromStr EventRecord.Encodes)
    (file : Option (List UInt8)) (limit : ℕ) :
    readEvents fromStr file limit = readEvents fromStr (some (file.getD [])) limit := by
  cases file with
  | some bytes => rfl
  | none =>
    have hempty := readEvents_of_file hserde EventFile.nil limit
    rw [Option.getD_none, hempty, List.rtake_nil]
    rfl

end System

end PutGateway
