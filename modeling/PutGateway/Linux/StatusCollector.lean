import PutGateway.Lib.JsonString
/-!
# Strings of the status file

`fprint_json_string` of `linux_app/core/status_collector.c` writes a C
string as a string literal of JSON. Interface names and error messages go
through it into the status file.

What it writes for a text in UTF-8 is a literal of that text
(`fprintJsonString_roundTrip`). The bytes of ASCII are escaped or stand
for themselves, one by one; the others are those of longer characters and
are left as they are.
-/

namespace PutGateway

namespace Linux

open JsonString

/-! ## The encoder -/

/-- A digit of `%X`. -/
def upperHexDigit (n : ℕ) : UInt8 := UInt8.ofNat (if n < 10 then 0x30 + n else 0x37 + n)

/-- `%04X` of a number below 2^16. -/
def format04X (n : ℕ) : List UInt8 :=
  [upperHexDigit (n / 4096 % 16), upperHexDigit (n / 256 % 16), upperHexDigit (n / 16 % 16),
   upperHexDigit (n % 16)]

/-- One turn of the loop of `fprint_json_string`. -/
def fprintJsonByte (p : UInt8) : List UInt8 :=
  if p = 0x22 then [0x5C, 0x22]
  else if p = 0x5C then [0x5C, 0x5C]
  else if p = 0x08 then [0x5C, 0x62]
  else if p = 0x0C then [0x5C, 0x66]
  else if p = 0x0A then [0x5C, 0x6E]
  else if p = 0x0D then [0x5C, 0x72]
  else if p = 0x09 then [0x5C, 0x74]
  else if p < 0x20 then 0x5C :: 0x75 :: format04X p.toNat
  else [p]

/-- The loop of `fprint_json_string`. -/
def fprintJsonBytes : List UInt8 → List UInt8
  | [] => []
  | p :: text => if p = 0 then [] else fprintJsonByte p ++ fprintJsonBytes text

/-- `fprint_json_string`: what it writes for the bytes at `text`, up to the
first NUL. A null pointer is the empty text. -/
def fprintJsonString (text : Option (List UInt8)) : List UInt8 :=
  0x22 :: (fprintJsonBytes (text.getD []) ++ [0x22])

/-! ## One character -/

variable {c : Char} {text : List Char} {bytes : List UInt8}

/-- Bytes outside ASCII are written as they are. -/
theorem fprintJsonByte_of_ge {p : UInt8} (h : 128 ≤ p) : fprintJsonByte p = [p] := by
  have hne : ∀ q : UInt8, q < 128 → p ≠ q := by
    rintro q hq rfl
    rw [UInt8.le_iff_toNat_le] at h
    rw [UInt8.lt_iff_toNat_lt] at hq
    omega
  have hlt : ¬ p < 0x20 := by
    rw [UInt8.le_iff_toNat_le] at h
    rw [UInt8.lt_iff_toNat_lt]
    have h128 : (128 : UInt8).toNat = 128 := rfl
    have h32 : (0x20 : UInt8).toNat = 32 := rfl
    omega
  rw [fprintJsonByte, if_neg (hne 0x22 (by decide)), if_neg (hne 0x5C (by decide)),
    if_neg (hne 0x08 (by decide)), if_neg (hne 0x0C (by decide)), if_neg (hne 0x0A (by decide)),
    if_neg (hne 0x0D (by decide)), if_neg (hne 0x09 (by decide)), if_neg hlt]

/-- A byte of ASCII is written as a short escape, a `\u` escape, or as it
is. -/
theorem fprintJsonByte_ascii : ∀ n < 128,
    (∃ b ∈ [0x22, 0x5C, 0x62, 0x66, 0x6E, 0x72, 0x74],
      fprintJsonByte (UInt8.ofNat n) = [0x5C, b] ∧
        shortEscapes.lookup b = some (Char.ofNat n)) ∨
    (fprintJsonByte (UInt8.ofNat n) = 0x5C :: 0x75 :: format04X n ∧
      hex4 (upperHexDigit (n / 4096 % 16)) (upperHexDigit (n / 256 % 16))
        (upperHexDigit (n / 16 % 16)) (upperHexDigit (n % 16)) = some n) ∨
    (fprintJsonByte (UInt8.ofNat n) = [UInt8.ofNat n] ∧ Unescaped (Char.ofNat n)) := by
  decide +kernel

/-- **What is written for a character spells it.** -/
theorem spells_fprintJsonByte (c : Char) :
    Spells ((String.utf8EncodeChar c).flatMap fprintJsonByte) c := by
  rcases Nat.lt_or_ge c.toNat 128 with hascii | hother
  · rw [utf8EncodeChar_ascii hascii, List.flatMap_singleton]
    rcases fprintJsonByte_ascii c.toNat hascii with ⟨b, -, hshort, hlookup⟩ | ⟨hunicode, hhex⟩ |
      ⟨hself, hunescaped⟩
    · rw [Char.ofNat_toNat] at hlookup
      rw [hshort]
      exact .short (lookup_shortEscapes_iff.mp hlookup)
    · rw [hunicode]
      exact .unicode hhex
    · rw [Char.ofNat_toNat] at hunescaped
      rw [hself, ← utf8EncodeChar_ascii hascii]
      exact .unescaped hunescaped
  · have hbytes : (String.utf8EncodeChar c).flatMap fprintJsonByte = String.utf8EncodeChar c := by
      have hall := le_of_mem_utf8EncodeChar hother
      generalize String.utf8EncodeChar c = bytes at hall
      induction bytes with
      | nil => rfl
      | cons p bytes ih =>
        rw [List.forall_mem_cons] at hall
        rw [List.flatMap_cons, fprintJsonByte_of_ge hall.1, ih hall.2]
        rfl
    have hunescaped : Unescaped c := by
      refine ⟨by omega, ?_, ?_⟩ <;>
      · rintro rfl
        exact absurd hother (by decide)
    rw [hbytes]
    exact .unescaped hunescaped

/-! ## A text -/

theorem fprintJsonBytes_of_ne (h : ∀ p ∈ bytes, p ≠ 0) :
    fprintJsonBytes bytes = bytes.flatMap fprintJsonByte := by
  induction bytes with
  | nil => rfl
  | cons p bytes ih =>
    rw [List.forall_mem_cons] at h
    rw [fprintJsonBytes, if_neg h.1, ih h.2, List.flatMap_cons]

/-- A text without NUL has no zero byte. -/
theorem ne_zero_of_mem_utf8 (h : '\x00' ∉ text) : ∀ p ∈ utf8 text, p ≠ 0 := by
  intro p hp
  obtain ⟨c, hc, hpc⟩ := List.mem_flatMap.mp hp
  rintro rfl
  rcases Nat.lt_or_ge c.toNat 128 with hascii | hother
  · rw [utf8EncodeChar_ascii hascii, List.mem_singleton] at hpc
    have hzero := congrArg UInt8.toNat hpc
    have h0 : (0 : UInt8).toNat = 0 := rfl
    rw [UInt8.toNat_ofNat', h0] at hzero
    have hnat : c.toNat = '\x00'.toNat := by
      have hnul : '\x00'.toNat = 0 := rfl
      omega
    rw [Char.toNat_inj.mp hnat] at hc
    exact h hc
  · exact absurd (le_of_mem_utf8EncodeChar hother 0 hpc) (by decide)

theorem body_flatMap (text : List Char) : Body ((utf8 text).flatMap fprintJsonByte) text := by
  induction text with
  | nil => exact .nil
  | cons c text ih =>
    rw [utf8, List.flatMap_cons, List.flatMap_append]
    exact .cons (spells_fprintJsonByte c) ih

/-- What is written for a text is a literal of it. -/
theorem literal_fprintJsonString (h : '\x00' ∉ text) :
    Literal (fprintJsonString (some (utf8 text))) text := by
  refine ⟨_, rfl, ?_⟩
  rw [Option.getD_some, fprintJsonBytes_of_ne (ne_zero_of_mem_utf8 h)]
  exact body_flatMap text

/-- **The encoder is read back.** What `fprint_json_string` writes for a
text without NUL is a string literal, it is read as that text whatever
comes behind it, no other literal begins like it, and no other text is
written like it. -/
theorem fprintJsonString_roundTrip (text : List Char) (h : '\x00' ∉ text) :
    Literal (fprintJsonString (some (utf8 text))) text ∧
    (∀ rest, parse (fprintJsonString (some (utf8 text)) ++ rest) = some (text, rest)) ∧
    (∀ literal value rest rest', Literal literal value →
      fprintJsonString (some (utf8 text)) ++ rest = literal ++ rest' →
      literal = fprintJsonString (some (utf8 text)) ∧ value = text ∧ rest' = rest) ∧
    ∀ text', '\x00' ∉ text' →
      fprintJsonString (some (utf8 text)) = fprintJsonString (some (utf8 text')) → text = text' := by
  have hliteral := literal_fprintJsonString h
  refine ⟨hliteral, hliteral.parse_append, ?_, ?_⟩
  · intro literal value rest rest' hother hsame
    obtain ⟨hlit, hval, hrest⟩ := hliteral.unique hother hsame
    exact ⟨hlit.symm, hval.symm, hrest.symm⟩
  · intro text' h' hsame
    exact (hliteral.unique (literal_fprintJsonString h') (congrArg (· ++ []) hsame)).2.1

/-- A text with a character of every kind. -/
theorem fprintJsonString_roundTrip_mixed :
    '\x00' ∉ ['a', '"', '\n', '\x01', 'é', '中', '😀'] ∧
    parse (fprintJsonString (some (utf8 ['a', '"', '\n', '\x01', 'é', '中', '😀'])) ++
      [0x2C, 0x22]) = some (['a', '"', '\n', '\x01', 'é', '中', '😀'], [0x2C, 0x22]) :=
  ⟨by decide, (fprintJsonString_roundTrip ['a', '"', '\n', '\x01', 'é', '中', '😀'] (by decide)).2.1
    [0x2C, 0x22]⟩

end Linux

end PutGateway
