import PutGateway.Linux.AppConfig
/-!
# Comments of the configuration file

A comment should not matter. `fgets` reads 255 bytes at a time, though, and
every such chunk is taken for a line, with a comment of its own: a comment
that goes beyond the chunk is read on as a setting.

`CommentEdit` relates the lines of two files that differ in their comments.
They load alike, from every configuration, as long as no line with a change
is longer than 255 bytes, and 255 is the exact bound
(`comments_inert_iff`).
-/

namespace PutGateway

namespace Linux

open LineChunks

variable {line line' bytes : List UInt8} {state : LoadState} {n : ℕ}

/-! ## What a line says -/

/-- What `app_config_load_file` looks at of a buffer. -/
def codeOf (line : List UInt8) : List UInt8 := trim (stripInlineComment (cString line))

theorem loadLine_congr (h : codeOf line = codeOf line') :
    loadLine state line = loadLine state line' := by
  unfold codeOf at h
  simp only [loadLine, h]

theorem loadLine_of_blank (h : codeOf line = []) : loadLine state line = .ok state := by
  unfold codeOf at h
  simp only [loadLine, h, if_true]

theorem trim_concat_newline (text : List UInt8) : trim (text ++ [10]) = trim text := by
  unfold trim
  rw [List.dropWhile_append]
  split
  · next hblank =>
    rw [List.isEmpty_iff] at hblank
    rw [hblank]
    rfl
  · exact List.rdropWhile_concat_pos _ _ _ rfl

/-- All of a text that is blank is trimmed. -/
theorem trim_eq_nil (h : ∀ c ∈ line, isSpace c = true) : trim line = [] := by
  unfold trim
  rw [List.dropWhile_eq_nil_iff.mpr h]
  rfl

theorem stripFrom_concat_newline (inQuote : Bool) (text : List UInt8) :
    stripFrom inQuote (text ++ [10]) = stripFrom inQuote text ∨
      stripFrom inQuote (text ++ [10]) = stripFrom inQuote text ++ [10] := by
  induction text generalizing inQuote with
  | nil => cases inQuote <;> exact .inr rfl
  | cons p text ih =>
    rw [List.cons_append, stripFrom, stripFrom]
    split
    · rcases ih (!inQuote) with h | h
      · exact .inl (by rw [h])
      · exact .inr (by rw [h]; rfl)
    · split
      · exact .inl rfl
      · rcases ih inQuote with h | h
        · exact .inl (by rw [h])
        · exact .inr (by rw [h]; rfl)

theorem cString_concat_newline (text : List UInt8) :
    cString (text ++ [10]) = cString text ∨ cString (text ++ [10]) = cString text ++ [10] := by
  unfold cString
  rw [List.takeWhile_append]
  split
  · next hall =>
    rw [List.IsPrefix.eq_of_length (List.takeWhile_prefix _) hall]
    exact .inr rfl
  · exact .inl rfl

/-- The newline `fgets` stores says nothing. -/
theorem codeOf_concat_newline (line : List UInt8) : codeOf (line ++ [10]) = codeOf line := by
  unfold codeOf
  rcases cString_concat_newline line with h | h
  · rw [h]
  · rw [h, stripInlineComment]
    rcases stripFrom_concat_newline false (cString line) with hstrip | hstrip
    · rw [hstrip]
      rfl
    · rw [hstrip, trim_concat_newline]
      rfl

/-- A comment is stripped from what is in front of a NUL. -/
theorem stripFrom_cString (inQuote : Bool) (line : List UInt8) :
    stripFrom inQuote (cString line) = cString (stripFrom inQuote line) := by
  unfold cString
  induction line generalizing inQuote with
  | nil => rfl
  | cons p line ih =>
    by_cases hzero : p = 0
    · subst hzero
      cases inQuote <;> rfl
    · rw [List.takeWhile_cons_of_pos (by simpa using hzero), stripFrom, stripFrom]
      split
      · rw [ih, List.takeWhile_cons_of_pos (by simpa using hzero)]
      · split
        · rfl
        · rw [ih, List.takeWhile_cons_of_pos (by simpa using hzero)]

/-- **What a line says is in front of its comment.** -/
theorem codeOf_eq (line : List UInt8) :
    codeOf line = trim (cString (stripInlineComment line)) :=
  congrArg trim (stripFrom_cString false line)

theorem loadLine_ignores : Ignores 10 loadLine where
  nil := fun _ => loadLine_of_blank rfl
  separator := fun _ line => loadLine_congr (codeOf_concat_newline line)

/-! ## Edits of comments -/

/-- A line with nothing in front of its comment. -/
def IsCommentLine (line : List UInt8) : Prop := ∀ c ∈ stripInlineComment line, isSpace c = true

theorem IsCommentLine.codeOf (h : IsCommentLine line) : codeOf line = [] := by
  rw [codeOf_eq]
  exact trim_eq_nil fun c hc => h c ((List.takeWhile_prefix _).mem hc)

/-- Two lists of lines that differ in their comments, where no line that
differs has more than `n` bytes in either. -/
inductive CommentEdit (n : ℕ) : List (List UInt8) → List (List UInt8) → Prop
  | nil : CommentEdit n [] []
  | keep {file file' : List (List UInt8)} (line : List UInt8) : CommentEdit n file file' →
      CommentEdit n (line :: file) (line :: file')
  | change {file file' : List (List UInt8)} {line line' : List UInt8} :
      stripInlineComment line = stripInlineComment line' →
      line.length ≤ n → line'.length ≤ n → CommentEdit n file file' →
      CommentEdit n (line :: file) (line' :: file')
  | add {file file' : List (List UInt8)} {line : List UInt8} :
      IsCommentLine line → line.length ≤ n → CommentEdit n file file' →
      CommentEdit n file (line :: file')
  | remove {file file' : List (List UInt8)} {line : List UInt8} :
      IsCommentLine line → line.length ≤ n → CommentEdit n file file' →
      CommentEdit n (line :: file) file'

/-- The lines of a file. -/
def logicalLines (bytes : List UInt8) : List (List UInt8) := bytes.splitOn 10

/-- Read a line of a file. -/
def loadLogicalLine (state : LoadState) (line : List UInt8) :
    Except (UnifiedError × AppConfig) LoadState :=
  consumeLine 10 (configLineMax - 1) loadLine state line

theorem loadLogicalLine_of_fits (hline : 10 ∉ line) (hfits : line.length ≤ 255) :
    loadLogicalLine state line = loadLine state line :=
  consumeLine_of_fits loadLine_ignores (by decide) hline hfits state

/-- A file is read line by line. -/
theorem appConfigLoadFile_eq (config : AppConfig) (bytes : List UInt8) :
    appConfigLoadFile config (some bytes) =
      match (logicalLines bytes).foldlM loadLogicalLine { config := config } with
      | .ok state => (appConfigValidate state.config, state.config)
      | .error failed => failed := by
  rw [appConfigLoadFile, foldlM_chunks loadLine_ignores (by decide) _ (Nat.le_refl _)]
  rfl

/-- **An edit of comments within the chunk** is not noticed. -/
theorem CommentEdit.foldlM_eq {file file' : List (List UInt8)} (h : CommentEdit n file file')
    (hn : n ≤ 255) (hfile : ∀ line ∈ file, 10 ∉ line) (hfile' : ∀ line ∈ file', 10 ∉ line) :
    ∀ state, file.foldlM loadLogicalLine state = file'.foldlM loadLogicalLine state := by
  induction h with
  | nil => exact fun _ => rfl
  | keep line _ ih =>
    rw [List.forall_mem_cons] at hfile hfile'
    intro state
    rw [List.foldlM_cons, List.foldlM_cons]
    exact bind_congr (ih hfile.2 hfile'.2)
  | @change file file' line line' hstrip hlen hlen' _ ih =>
    rw [List.forall_mem_cons] at hfile hfile'
    have hsame : codeOf line = codeOf line' := by rw [codeOf_eq, codeOf_eq, hstrip]
    intro state
    rw [List.foldlM_cons, List.foldlM_cons, loadLogicalLine_of_fits hfile.1 (hlen.trans hn),
      loadLogicalLine_of_fits hfile'.1 (hlen'.trans hn), loadLine_congr hsame]
    exact bind_congr (ih hfile.2 hfile'.2)
  | add hcomment hlen _ ih =>
    rw [List.forall_mem_cons] at hfile'
    intro state
    rw [List.foldlM_cons, loadLogicalLine_of_fits hfile'.1 (hlen.trans hn),
      loadLine_of_blank hcomment.codeOf]
    exact ih hfile hfile'.2 state
  | remove hcomment hlen _ ih =>
    rw [List.forall_mem_cons] at hfile
    intro state
    rw [List.foldlM_cons, loadLogicalLine_of_fits hfile.1 (hlen.trans hn),
      loadLine_of_blank hcomment.codeOf]
    exact ih hfile.2 hfile' state

/-! ## Files with the same code -/

/-- The lines with a code part, without their comments. -/
def codeLines (file : List (List UInt8)) : List (List UInt8) :=
  (file.map stripInlineComment).filter fun code => !code.all isSpace

theorem codeLines_cons (line : List UInt8) (file : List (List UInt8)) :
    codeLines (line :: file) =
      if (stripInlineComment line).all isSpace = true then codeLines file
      else stripInlineComment line :: codeLines file := by
  unfold codeLines
  rw [List.map_cons, List.filter_cons]
  cases (stripInlineComment line).all isSpace <;> rfl

theorem isCommentLine_iff : IsCommentLine line ↔ (stripInlineComment line).all isSpace = true :=
  List.all_eq_true.symm

/-- **Files of short lines with the same code** differ by an edit of
comments. -/
theorem CommentEdit.of_codeLines {file file' : List (List UInt8)}
    (hfile : ∀ line ∈ file, line.length ≤ n) (hfile' : ∀ line ∈ file', line.length ≤ n)
    (h : codeLines file = codeLines file') : CommentEdit n file file' := by
  induction file generalizing file' with
  | nil =>
    induction file' with
    | nil => exact .nil
    | cons line' file' ih' =>
      rw [List.forall_mem_cons] at hfile'
      rw [codeLines_cons] at h
      split at h
      · next hblank => exact .add (isCommentLine_iff.mpr hblank) hfile'.1 (ih' hfile'.2 h)
      · cases h
  | cons line file ih =>
    rw [List.forall_mem_cons] at hfile
    rw [codeLines_cons] at h
    split at h
    · next hblank => exact .remove (isCommentLine_iff.mpr hblank) hfile.1 (ih hfile.2 hfile' h)
    · -- the comment lines in front of the counterpart of the line are added
      induction file' with
      | nil => cases h
      | cons line' file' ih' =>
        rw [List.forall_mem_cons] at hfile'
        rw [codeLines_cons] at h
        split at h
        · next hblank => exact .add (isCommentLine_iff.mpr hblank) hfile'.1 (ih' hfile'.2 h)
        · injection h with hcode hrest
          exact .change hcode hfile.1 hfile'.1 (ih hfile.2 hfile'.2 hrest)

/-- **The result depends on the code only**, for files of lines that fit
into the buffer. -/
theorem appConfigLoadFile_congr (config : AppConfig) {bytes bytes' : List UInt8}
    (hfile : ∀ line ∈ logicalLines bytes, line.length ≤ 255)
    (hfile' : ∀ line ∈ logicalLines bytes', line.length ≤ 255)
    (h : codeLines (logicalLines bytes) = codeLines (logicalLines bytes')) :
    appConfigLoadFile config (some bytes) = appConfigLoadFile config (some bytes') := by
  rw [appConfigLoadFile_eq, appConfigLoadFile_eq,
    (CommentEdit.of_codeLines hfile hfile' h).foldlM_eq (Nat.le_refl _)
      (notMem_of_mem_splitOn bytes) (notMem_of_mem_splitOn bytes')]

/-! ## The bound -/

/-- A comment line of 256 bytes. -/
def longComment : List UInt8 := List.replicate 255 35 ++ [120]

/-- **Comments are inert exactly up to 255 bytes.** Changing, adding and
removing comments changes neither the code nor the configuration, for all
files and from every configuration, if and only if the lines it is done to
are at most 255 bytes long. The equivalence is over the bound `n` and all
edits within it. Of a single edit it says that lines of at most 255 bytes
are enough, not that a longer one always changes what is loaded. -/
theorem comments_inert_iff (n : ℕ) :
    (∀ (config : AppConfig) (bytes bytes' : List UInt8),
      CommentEdit n (logicalLines bytes) (logicalLines bytes') →
      appConfigLoadFile config (some bytes) = appConfigLoadFile config (some bytes')) ↔
    n ≤ 255 := by
  constructor
  · intro h
    by_contra hn
    have hlines : logicalLines longComment = [longComment] :=
      List.splitOn_eq_singleton (by decide +kernel)
    have hedit : CommentEdit n (logicalLines []) (logicalLines longComment) := by
      rw [hlines]
      refine .change (by decide +kernel) (Nat.zero_le n) ?_ .nil
      have hlen : longComment.length = 256 := by decide +kernel
      omega
    have hsame := congrArg Prod.fst (h appConfigSetDefaults [] longComment hedit)
    exact absurd hsame (by decide +kernel)
  · intro hn config bytes bytes' hedit
    rw [appConfigLoadFile_eq, appConfigLoadFile_eq,
      hedit.foldlM_eq hn (notMem_of_mem_splitOn bytes) (notMem_of_mem_splitOn bytes')]

/-- A file with a section header only, and the file with a comment line
added whose tail looks like a setting. -/
def headerOnly : List UInt8 := ascii "[can]\n"
def headerAndComment : List UInt8 :=
  ascii "[can]\n#" ++ List.replicate 254 45 ++ ascii "enabled = false\n"

/-- The comment line turns the CAN interface off. -/
theorem comment_disables_can :
    logicalLines headerAndComment =
      [ascii "[can]", ascii "#" ++ List.replicate 254 45 ++ ascii "enabled = false", []] ∧
    codeLines (logicalLines headerOnly) = codeLines (logicalLines headerAndComment) ∧
    (appConfigLoadFile appConfigSetDefaults (some headerOnly)).1 = .ok ∧
    (appConfigLoadFile appConfigSetDefaults (some headerOnly)).2.canEnabled = true ∧
    (appConfigLoadFile appConfigSetDefaults (some headerAndComment)).1 = .ok ∧
    (appConfigLoadFile appConfigSetDefaults (some headerAndComment)).2.canEnabled = false := by
  refine ⟨?_, ?_, ?_, ?_, ?_, ?_⟩ <;> decide +kernel

end Linux

end PutGateway
