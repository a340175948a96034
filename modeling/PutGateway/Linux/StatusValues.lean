import PutGateway.Linux.StatusFiles
/-!
# The status files are JSON

The files the web reads back are well-formed texts of JSON, with a value
that says what the collector holds: `moduleValue`, `ringValue` and the
others give the value, and `text_writeModulesJson` and
`text_writeIpcStatusJson` say that the text spells it. This needs that the
texts the collector was told are ASCII, as all of the program's are: a
message may be cut off at any byte.
-/

namespace PutGateway

namespace Linux

open Json

/-! ## Pieces spell tokens -/

/-- A C string in ASCII. -/
def IsAscii (text : List UInt8) : Prop := text.all fun b => b ≠ 0 && b < 128

instance : DecidablePred IsAscii := fun text =>
  inferInstanceAs (Decidable ((text.all fun b => b ≠ 0 && b < 128) = true))

theorem isAscii_iff {text : List UInt8} : IsAscii text ↔ ∀ b ∈ text, b ≠ 0 ∧ b < 128 := by
  simp only [IsAscii, List.all_eq_true, Bool.and_eq_true, decide_eq_true_eq]

/-- What a piece has to be for it to print a token. -/
def Piece.Fits : Piece → Prop
  | .quoted word => (chars word).all isPlain
  | .json string => IsAscii string
  | _ => True

/-- The pieces go on with a part of the format that no number runs into. -/
def startsFixed : List Piece → Bool
  | .text format :: _ => format.toList.head?.any fun c => !isNumberByte (byte c)
  | _ => false

/-- The tokens of pieces one after another. -/
def printedTokens : List Piece → Option (List Token)
  | [] => some []
  | .text format :: rest =>
    match fixedTokens (format.length + 1) format.toList with
    | none => none
    | some ts => (printedTokens rest).map (ts ++ ·)
  | .u64 n :: rest =>
    if startsFixed rest then (printedTokens rest).map (.number (decimal n.toNat) :: ·) else none
  | .bool b :: rest => (printedTokens rest).map (.bool b :: ·)
  | .quoted word :: rest => (printedTokens rest).map (.string (chars word) :: ·)
  | .json string :: rest => (printedTokens rest).map (.string (chars string) :: ·)

variable {pieces pieces' : List Piece} {ts ts' : List Token} {text : List UInt8}

theorem ascii_eq_map (format : String) : ascii format = format.toList.map byte := rfl

theorem head_fprintf (h : startsFixed pieces) :
    ∀ b ∈ (fprintf pieces).head?, isNumberByte b = false := by
  unfold startsFixed at h
  split at h
  swap
  · cases h
  next format rest =>
  intro b hb
  rw [fprintf, List.flatMap_cons, Piece.bytes, ascii_eq_map] at hb
  cases hformat : format.toList with
  | nil =>
    rw [hformat] at h
    cases h
  | cons c l =>
    rw [hformat] at h hb
    cases hb
    simpa using h

/-- **What is printed spells the tokens of its pieces.** -/
theorem lexes_fprintf : ∀ {pieces : List Piece} {ts : List Token},
    printedTokens pieces = some ts → (∀ p ∈ pieces, p.Fits) → Lexes (fprintf pieces) ts := by
  intro pieces
  induction pieces with
  | nil =>
    intro ts h _
    cases h
    exact .nil
  | cons p rest ih =>
    intro ts h hfits
    rw [List.forall_mem_cons] at hfits
    rw [fprintf, List.flatMap_cons]
    cases p with
    | text format =>
      rw [printedTokens] at h
      split at h
      · cases h
      next ts₀ hfixed =>
      rw [Option.map_eq_some_iff] at h
      obtain ⟨ts', hrest, rfl⟩ := h
      exact (ih hrest hfits.2).fixed _ hfixed
    | u64 n =>
      rw [printedTokens] at h
      split at h
      swap
      · cases h
      next hstarts =>
      rw [Option.map_eq_some_iff] at h
      obtain ⟨ts', hrest, rfl⟩ := h
      exact .natural _ (head_fprintf hstarts) (ih hrest hfits.2)
    | bool b =>
      rw [printedTokens, Option.map_eq_some_iff] at h
      obtain ⟨ts', hrest, rfl⟩ := h
      have hword : (Piece.bytes (.bool b), Token.bool b) ∈ words := by cases b <;> decide
      exact .token (.word hword) trivial (ih hrest hfits.2)
    | quoted word =>
      rw [printedTokens, Option.map_eq_some_iff] at h
      obtain ⟨ts', hrest, rfl⟩ := h
      have hliteral := literal_of_isPlain (List.all_eq_true.mp hfits.1)
      rw [map_byte_chars] at hliteral
      exact .string hliteral (ih hrest hfits.2)
    | json string =>
      rw [printedTokens, Option.map_eq_some_iff] at h
      obtain ⟨ts', hrest, rfl⟩ := h
      have hascii := isAscii_iff.mp hfits.1
      have hutf8 := utf8_chars fun b hb => (hascii b hb).2
      have hnul : '\x00' ∉ chars string := by
        intro hmem
        obtain ⟨b, hb, hzero⟩ := List.mem_map.mp hmem
        have hnat := congrArg Char.toNat hzero
        rw [toNat_char] at hnat
        exact (hascii b hb).1 (UInt8.toNat_inj.mp hnat)
      have hliteral := literal_fprintJsonString hnul
      rw [hutf8] at hliteral
      exact .string hliteral (ih hrest hfits.2)

theorem printedTokens_append (h' : printedTokens pieces' = some ts') :
    ∀ {pieces : List Piece} {ts : List Token}, printedTokens pieces = some ts →
      printedTokens (pieces ++ pieces') = some (ts ++ ts') := by
  intro pieces
  induction pieces with
  | nil =>
    intro ts h
    cases h
    exact h'
  | cons p rest ih =>
    intro ts h
    rw [List.cons_append]
    cases p with
    | text format =>
      rw [printedTokens] at h ⊢
      split at h
      · cases h
      next ts₀ hfixed =>
      rw [Option.map_eq_some_iff] at h
      obtain ⟨ts₁, hrest, rfl⟩ := h
      simp only [ih hrest, Option.map_some, List.append_assoc]
    | u64 n =>
      rw [printedTokens] at h ⊢
      split at h
      swap
      · cases h
      next hstarts =>
      rw [Option.map_eq_some_iff] at h
      obtain ⟨ts₁, hrest, rfl⟩ := h
      -- a number is never the last piece, so what is behind it stays there
      have hstarts' : startsFixed (rest ++ pieces') := by
        cases rest with
        | nil => cases hstarts
        | cons q rest => cases q <;> exact hstarts
      rw [if_pos hstarts', ih hrest, Option.map_some, List.cons_append]
    | bool b =>
      rw [printedTokens, Option.map_eq_some_iff] at h
      obtain ⟨ts₁, hrest, rfl⟩ := h
      rw [printedTokens, ih hrest, Option.map_some, List.cons_append]
    | quoted word =>
      rw [printedTokens, Option.map_eq_some_iff] at h
      obtain ⟨ts₁, hrest, rfl⟩ := h
      rw [printedTokens, ih hrest, Option.map_some, List.cons_append]
    | json string =>
      rw [printedTokens, Option.map_eq_some_iff] at h
      obtain ⟨ts₁, hrest, rfl⟩ := h
      rw [printedTokens, ih hrest, Option.map_some, List.cons_append]

/-- The objects of an array, with commas between them, are its items. -/
theorem printedTokens_arrayPieces {α : Type} {object : α → List Piece} {value : α → Value}
    (h : ∀ a, printedTokens (object a) = some (value a).tokens) (a : α) (rest : List α) :
    ∃ ts, printedTokens (arrayPieces object (a :: rest)) = some ts ∧
      ts ++ [.rightBracket] = (value a).tokens ++ moreItems (rest.map value) := by
  induction rest generalizing a with
  | nil =>
    have hline : printedTokens [.text "\n"] = some [] := rfl
    exact ⟨_, printedTokens_append hline (printedTokens_append rfl (h a)), by
      simp only [List.append_nil, List.map_nil, moreItems]⟩
  | cons b rest ih =>
    obtain ⟨ts, hts, hitems⟩ := ih b
    have hline : printedTokens (.text "\n" :: arrayPieces object (b :: rest)) = some ts :=
      printedTokens_append hts (show printedTokens [.text "\n"] = some [] from rfl)
    have hcomma : printedTokens [.text ","] = some [.comma] := rfl
    refine ⟨_, printedTokens_append hline (printedTokens_append hcomma (h a)), ?_⟩
    rw [List.append_assoc, List.append_assoc, hitems]
    rfl

theorem mem_arrayPieces {α : Type} {object : α → List Piece} {p : Piece} {l : List α}
    (h : p ∈ arrayPieces object l) : (∃ a ∈ l, p ∈ object a) ∨ ∃ format, p = .text format := by
  induction l with
  | nil => cases h
  | cons a rest ih =>
    rw [arrayPieces, List.mem_append, List.mem_append, List.mem_cons] at h
    rcases h with (hobject | hcomma) | hline | hrest
    · exact .inl ⟨a, List.mem_cons_self, hobject⟩
    · right
      split at hcomma
      · cases hcomma
      · exact ⟨_, List.mem_singleton.mp hcomma⟩
    · exact .inr ⟨_, hline⟩
    · rcases ih hrest with ⟨b, hb, hobject⟩ | hformat
      · exact .inl ⟨b, List.mem_cons_of_mem _ hb, hobject⟩
      · exact .inr hformat

/-! ## The values of the files -/

/-- A member of an object. -/
def member (name : String) (v : Value) : List Char × Value := (name.toList, v)

/-- A counter, or a time. -/
def u64Value (n : UInt64) : Value := .number (decimal n.toNat)

/-- A text. -/
def stringValue (text : List UInt8) : Value := .string (chars text)

variable (now : UInt64) (c : StatusCollector)

/-- What `modules.json` says of a module. -/
def moduleValue (m : StatusModuleSnapshot) : Value :=
  .object
    [member "name" (stringValue m.name),
     member "status" (stringValue (ascii (moduleState now m).name)),
     member "rx_bytes" (u64Value m.rxBytes),
     member "tx_bytes" (u64Value m.txBytes),
     member "rx_frames" (u64Value m.rxFrames),
     member "tx_frames" (u64Value m.txFrames),
     member "decode_error_count" (u64Value m.decodeErrorCount),
     member "fragment_drop_count" (u64Value m.fragmentDropCount),
     member "reassemble_timeout_count" (u64Value m.reassembleTimeoutCount),
     member "crc_error_count" (u64Value m.crcErrorCount),
     member "send_fail_count" (u64Value m.sendFailCount),
     member "interface_offline_count" (u64Value m.interfaceOfflineCount),
     member "last_rx_ms" (u64Value m.lastRxMs),
     member "last_tx_ms" (u64Value m.lastTxMs),
     member "last_error" (stringValue
       (if m.lastErrorMessage = [] then ascii "none" else m.lastErrorMessage)),
     member "message" (stringValue (moduleMessage now m))]

/-- What `modules.json` says. -/
def modulesValue : Value :=
  .object
    [member "updated_at_ms" (u64Value now),
     member "state" (stringValue (ascii (topState now c))),
     member "modules" (.array (StatusModuleId.all.map fun id => moduleValue now (c.modules id)))]

/-- What `ipc_status.json` says of a ring. -/
def ringValue (rings : Fin 6 → RingStats) (i : Fin 6) : Value :=
  .object
    [member "interface" (stringValue (ascii (interfaceNameFromId (interfaceOfIndex i)))),
     member "capacity" (u64Value (rings i).capacity),
     member "used" (u64Value (rings i).used),
     member "high_watermark" (u64Value (rings i).highWatermark),
     member "full_count" (u64Value (rings i).fullCount)]

/-- What `ipc_status.json` says before there are statistics. -/
def ipcUnknownValue : Value :=
  .object
    [member "updated_at_ms" (u64Value now),
     member "state" (stringValue (ascii "unknown")),
     member "rtos_online" (.bool false),
     member "frame_pool" (.object
       [member "capacity" (u64Value 0), member "used" (u64Value 0),
        member "pending_reclaim" (u64Value 0), member "leaked_suspect" (u64Value 0)]),
     member "rx_rings" (.array []),
     member "tx_rings" (.array [])]

/-- What `ipc_status.json` says of the frame pool. -/
def framePoolValue (stats : LinuxShmIpcSnapshot) : Value :=
  .object
    [member "capacity" (u64Value stats.framePool.capacity),
     member "used" (u64Value stats.framePool.used),
     member "high_watermark" (u64Value stats.framePool.highWatermark),
     member "full_count" (u64Value stats.framePool.fullCount),
     member "allocated" (u64Value stats.framePool.allocated),
     member "released" (u64Value stats.framePool.released),
     member "pending_reclaim" (u64Value stats.framePool.pendingReclaim),
     member "leaked_suspect" (u64Value stats.leakedSuspect)]

/-- What `ipc_status.json` says of the pending bits. -/
def pendingBitmapValue (stats : LinuxShmIpcSnapshot) : Value :=
  .object
    [member "rx" (stringValue (ascii "0x" ++ format02X stats.rxPendingBits)),
     member "tx" (stringValue (ascii "0x" ++ format02X stats.txPendingBits))]

/-- What `ipc_status.json` says of the doorbells. -/
def mailboxValue (stats : LinuxShmIpcSnapshot) : Value :=
  .object
    [member "rx_doorbell_count" (u64Value stats.rxDoorbellCount),
     member "tx_doorbell_count" (u64Value stats.txDoorbellCount),
     member "notify_fail_count" (u64Value stats.notifyFailCount),
     member "periodic_drain_count" (u64Value stats.periodicDrainCount)]

/-- What `ipc_status.json` says of damage. -/
def integrityValue (stats : LinuxShmIpcSnapshot) : Value :=
  .object
    [member "descriptor_crc_error_count" (u64Value stats.descriptorCrcErrorCount),
     member "epoch_mismatch_count" (u64Value 0),
     member "cache_sync_error_count" (u64Value stats.cacheSyncErrorCount)]

/-- What `ipc_status.json` says of the reclaims. -/
def reclaimValue (stats : LinuxShmIpcSnapshot) : Value :=
  .object
    [member "heartbeat_consumed" (u64Value (stats.reasonCount .heartbeatConsumed)),
     member "invalid_frame_reclaimed" (u64Value (stats.reasonCount .invalidFrame)),
     member "no_route_reclaimed" (u64Value (stats.reasonCount .noRoute)),
     member "ttl_expired_reclaimed" (u64Value (stats.reasonCount .ttlExpired)),
     member "epoch_mismatch_reclaimed" (u64Value (stats.reasonCount .epochMismatch)),
     member "reclaim_ring_used" (u64Value stats.reclaimRingUsed),
     member "reclaim_ack_count" (u64Value stats.reclaimAckCount)]

/-- What `ipc_status.json` says. -/
def ipcStatusValue : Value :=
  if !c.ipcStatsValid then ipcUnknownValue now
  else
    .object
      [member "updated_at_ms" (u64Value now),
       member "state" (stringValue (ascii "ok")),
       member "rtos_online" (.bool c.rtosOnline),
       member "heartbeat_ms" (u64Value c.heartbeatMs),
       member "frame_pool" (framePoolValue c.ipcStats),
       member "rx_rings" (.array ((List.finRange 6).map (ringValue c.ipcStats.rxRings))),
       member "tx_rings" (.array ((List.finRange 6).map (ringValue c.ipcStats.txRings))),
       member "pending_bitmap" (pendingBitmapValue c.ipcStats),
       member "mailbox" (mailboxValue c.ipcStats),
       member "integrity" (integrityValue c.ipcStats),
       member "reclaim" (reclaimValue c.ipcStats)]

/-- The detail of an event. -/
def eventDetail (id : StatusModuleId) (stage : Option (List UInt8)) (err : UnifiedError) :
    List UInt8 :=
  snprintf (statusCollectorTextMax * 2)
    (ascii "module=" ++ (c.modules id).name ++ ascii " stage=" ++ stage.getD (ascii "unknown") ++
      ascii " error=" ++ formatD (unifiedErrorCode err))

/-- What a line of `events.jsonl` says. -/
def eventValue (id : StatusModuleId) (stage : Option (List UInt8)) (err : UnifiedError) : Value :=
  .object
    [member "timestamp_ms" (u64Value now), member "level" (stringValue (ascii "warn")),
     member "source" (stringValue (ascii "adapter")),
     member "message" (stringValue (ascii "pipeline error")),
     member "detail" (stringValue (eventDetail c id stage err))]

/-! ## The texts spell the values -/

/-- What the collector holds of texts that reach a file is ASCII. -/
def StatusCollector.Ascii (c : StatusCollector) : Prop :=
  ∀ id, IsAscii (c.modules id).name ∧ IsAscii (c.modules id).lastErrorMessage

variable {c}

set_option maxRecDepth 8000 in
theorem printedTokens_modulePieces (m : StatusModuleSnapshot) :
    printedTokens (modulePieces now m) = some (moduleValue now m).tokens := rfl

theorem printedTokens_ringPieces (rings : Fin 6 → RingStats) (i : Fin 6) :
    printedTokens (ringPieces i (rings i)) = some (ringValue rings i).tokens := rfl

theorem isPlain_state : ∀ state : ModuleState, (chars (ascii state.name)).all isPlain := by
  intro state
  cases state <;> decide

theorem isAscii_message {m : StatusModuleSnapshot} (h : IsAscii m.lastErrorMessage) :
    IsAscii (moduleMessage now m) := by
  have hlast : ∀ fallback : String, IsAscii (ascii fallback) →
      IsAscii (if m.lastErrorMessage = [] then ascii fallback else m.lastErrorMessage) := by
    intro fallback hfallback
    split
    · exact hfallback
    · exact h
  unfold moduleMessage
  dsimp only
  split
  · decide
  · split
    · decide
    · exact hlast _ (by decide)
  · exact hlast _ (by decide)
  · exact hlast _ (by decide)
  · decide
  · split <;> decide

theorem fits_modulePieces {m : StatusModuleSnapshot} (hname : IsAscii m.name)
    (hmessage : IsAscii m.lastErrorMessage) : ∀ p ∈ modulePieces now m, p.Fits := by
  have hlast : IsAscii (if m.lastErrorMessage = [] then ascii "none" else m.lastErrorMessage) := by
    split
    · decide
    · exact hmessage
  simp only [modulePieces, List.forall_mem_cons, Piece.Fits, true_and, List.not_mem_nil,
    false_implies, implies_true, and_true]
  exact ⟨hname, isPlain_state _, hlast, isAscii_message now hmessage⟩

theorem topStateFrom_mem (states : List ModuleState) : ∀ topState ∈ ["ok", "warn", "error"],
    topStateFrom states topState ∈ ["ok", "warn", "error"] := by
  induction states with
  | nil => exact fun topState h => h
  | cons state rest ih =>
    intro topState h
    rw [topStateFrom]
    split
    · decide
    · refine ih _ ?_
      split
      · decide
      · exact h

theorem isPlain_topState : (chars (ascii (topState now c))).all isPlain := by
  have hall : ∀ state ∈ ["ok", "warn", "error"], (chars (ascii state)).all isPlain := by decide
  exact hall _ (topStateFrom_mem _ _ (by decide))

/-- **`modules.json` is a text of JSON that says what the collector
holds.** -/
theorem text_writeModulesJson (h : c.Ascii) :
    Text (writeModulesJson now c) (modulesValue now c) := by
  obtain ⟨ts, hts, hitems⟩ := printedTokens_arrayPieces
    (fun id => printedTokens_modulePieces now (c.modules id)) .can
    [.ethernet, .wifi, .bluetooth, .fourG, .rs485]
  have hend : printedTokens [.text "  ]\n\x7d\n"] = some [.rightBracket, .rightBrace] := rfl
  have hstart : printedTokens
      [.text "\x7b\n  \"updated_at_ms\":", .u64 now,
       .text ",\n  \"state\":", .quoted (ascii (topState now c)),
       .text ",\n  \"modules\":[\n"] = some
      [.leftBrace, .string "updated_at_ms".toList, .colon, .number (decimal now.toNat), .comma,
       .string "state".toList, .colon, .string (chars (ascii (topState now c))), .comma,
       .string "modules".toList, .colon, .leftBracket] := rfl
  have hdocument := printedTokens_append hend (printedTokens_append hts hstart)
  have htokens : (modulesValue now c).tokens =
      [.leftBrace, .string "updated_at_ms".toList, .colon, .number (decimal now.toNat), .comma,
       .string "state".toList, .colon, .string (chars (ascii (topState now c))), .comma,
       .string "modules".toList, .colon, .leftBracket] ++ ts ++ [.rightBracket, .rightBrace] := by
    rw [List.append_assoc, List.append_cons ts, hitems]
    rfl
  rw [Text, htokens]
  refine lexes_fprintf hdocument ?_
  intro p hp
  rw [List.mem_append, List.mem_append] at hp
  rcases hp with (hp | hp) | hp
  · revert p
    simp only [List.forall_mem_cons, Piece.Fits, true_and, List.not_mem_nil, false_implies,
      implies_true, and_true]
    exact isPlain_topState now
  · rcases mem_arrayPieces hp with ⟨id, -, hobject⟩ | ⟨format, rfl⟩
    · exact fits_modulePieces now (h id).1 (h id).2 p hobject
    · trivial
  · rw [List.mem_singleton.mp hp]
    trivial

theorem isPlain_interfaceName : ∀ i : Fin 6,
    (chars (ascii (interfaceNameFromId (interfaceOfIndex i)))).all isPlain := by
  decide

theorem fits_ringPieces (rings : Fin 6 → RingStats) (i : Fin 6) :
    ∀ p ∈ ringPieces i (rings i), p.Fits := by
  simp only [ringPieces, List.forall_mem_cons, Piece.Fits, true_and, List.not_mem_nil,
    false_implies, implies_true, and_true]
  exact isPlain_interfaceName i

theorem printedTokens_writeRingArray (name : String) (rings : Fin 6 → RingStats) :
    printedTokens (writeRingArray name rings) =
      some (.string (chars (ascii name)) :: .colon ::
        (Value.array ((List.finRange 6).map (ringValue rings))).tokens) := by
  have hrange : List.finRange 6 = 0 :: [1, 2, 3, 4, 5] := by decide
  obtain ⟨ts, hts, hitems⟩ := printedTokens_arrayPieces (printedTokens_ringPieces rings) 0
    [1, 2, 3, 4, 5]
  have hstart : printedTokens [.text "  ", .quoted (ascii name), .text ":[\n"] =
      some [.string (chars (ascii name)), .colon, .leftBracket] := rfl
  have hend : printedTokens [.text "  ]"] = some [.rightBracket] := rfl
  rw [writeRingArray, hrange, printedTokens_append hend (printedTokens_append hts hstart),
    List.append_assoc, hitems]
  rfl

theorem fits_writeRingArray {name : String} (hname : (chars (ascii name)).all isPlain)
    (rings : Fin 6 → RingStats) : ∀ p ∈ writeRingArray name rings, p.Fits := by
  intro p hp
  rw [writeRingArray, List.mem_append, List.mem_append] at hp
  rcases hp with (hp | hp) | hp
  · revert p
    simp only [List.forall_mem_cons, Piece.Fits, true_and, List.not_mem_nil, false_implies,
      implies_true, and_true]
    exact hname
  · rcases mem_arrayPieces hp with ⟨i, -, hobject⟩ | ⟨format, rfl⟩
    · exact fits_ringPieces rings i p hobject
    · trivial
  · rw [List.mem_singleton.mp hp]
    trivial

/-- The digits of a number in base 16. -/
theorem mem_toDigits (n : ℕ) : ∀ ch ∈ Nat.toDigits 16 n, ∃ d < 16, ch = Nat.digitChar d := by
  induction n using Nat.strongRecOn with
  | ind n ih =>
    rcases Nat.lt_or_ge n 16 with hsmall | hlarge
    · rw [Nat.toDigits_of_lt_base hsmall]
      exact fun ch hch => ⟨n, hsmall, List.mem_singleton.mp hch⟩
    · rw [Nat.toDigits_of_base_le (by decide) hlarge]
      intro ch hch
      rcases List.mem_append.mp hch with hch | hch
      · exact ih _ (by omega) ch hch
      · exact ⟨n % 16, Nat.mod_lt _ (by decide), List.mem_singleton.mp hch⟩

theorem isPlain_hex : ∀ d < 16,
    isPlain (Char.ofNat (Nat.digitChar d).toUpper.toNat.toUInt8.toNat) := by
  decide

theorem isPlain_bitmap (n : UInt32) : (chars (ascii "0x" ++ format02X n)).all isPlain := by
  have hdigits : (chars ((Nat.toDigits 16 n.toNat).map fun c => c.toUpper.toNat.toUInt8)).all
      isPlain := by
    rw [chars, List.map_map, List.all_map, List.all_eq_true]
    intro c hc
    obtain ⟨d, hd, rfl⟩ := mem_toDigits _ c hc
    exact isPlain_hex d hd
  have hstart : (chars (ascii "0x")).all isPlain := by decide
  rw [chars, List.map_append, ← chars, List.all_append, hstart, Bool.true_and, format02X]
  split
  · rw [List.map_cons, List.all_cons, ← chars, hdigits, Bool.and_true]
    decide
  · exact hdigits

theorem fits_ipcTailPieces (stats : LinuxShmIpcSnapshot) : ∀ p ∈ ipcTailPieces stats, p.Fits := by
  simp only [ipcTailPieces, List.forall_mem_cons, Piece.Fits, true_and, List.not_mem_nil,
    false_implies, implies_true, and_true]
  exact ⟨isPlain_bitmap _, isPlain_bitmap _⟩

theorem fits_ipcHeadPieces (c : StatusCollector) : ∀ p ∈ ipcHeadPieces now c, p.Fits := by
  simp only [ipcHeadPieces, List.forall_mem_cons, Piece.Fits, List.not_mem_nil, false_implies,
    implies_true, and_true]

set_option maxRecDepth 8000 in
theorem lexes_ipcUnknown (h : ¬ c.ipcStatsValid) :
    Text (writeIpcStatusJson now c) (ipcStatusValue now c) := by
  rw [Bool.not_eq_true] at h
  rw [writeIpcStatusJson, ipcStatusValue, h]
  refine lexes_fprintf rfl ?_
  simp only [List.forall_mem_cons, Piece.Fits, List.not_mem_nil, false_implies, implies_true,
    and_true]

set_option maxRecDepth 8000 in
/-- **`ipc_status.json` is a text of JSON that says what the collector
holds**, whatever that is. -/
theorem text_writeIpcStatusJson (c : StatusCollector) :
    Text (writeIpcStatusJson now c) (ipcStatusValue now c) := by
  by_cases hvalid : c.ipcStatsValid
  swap
  · exact lexes_ipcUnknown now hvalid
  have hsep : printedTokens [.text ",\n"] = some [.comma] := rfl
  have hhead : printedTokens (ipcHeadPieces now c) = some _ := rfl
  have htail : printedTokens (ipcTailPieces c.ipcStats) = some _ := rfl
  have hdocument := printedTokens_append htail (printedTokens_append hsep
    (printedTokens_append (printedTokens_writeRingArray "tx_rings" c.ipcStats.txRings)
      (printedTokens_append hsep
        (printedTokens_append (printedTokens_writeRingArray "rx_rings" c.ipcStats.rxRings) hhead))))
  rw [writeIpcStatusJson, ipcStatusValue, hvalid]
  refine lexes_fprintf hdocument ?_
  intro p hp
  simp only [List.mem_append, List.mem_singleton] at hp
  rcases hp with ((((hp | hp) | rfl) | hp) | rfl) | hp
  · exact fits_ipcHeadPieces now c p hp
  · exact fits_writeRingArray (by decide) _ p hp
  · trivial
  · exact fits_writeRingArray (by decide) _ p hp
  · trivial
  · exact fits_ipcTailPieces _ p hp

end Linux

end PutGateway
