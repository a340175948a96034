import Mathlib.Data.List.Basic
import Mathlib.Data.UInt
/-!
# String literals of JSON

The grammar of strings in RFC 8259, over the bytes of a text in UTF-8, with
the value of a literal (`Spells`, `Body`, `Literal`), and a parser that
reads a literal off the front of a text (`parse`). The parser is the
grammar (`parse_eq_some_iff`), so no literal goes on into another
(`Literal.unique`).

A `\u` escape of half a surrogate pair has no value; the grammar here has
the pairs only.
-/

namespace JsonString

/-! ## UTF-8 -/

/-- The bytes of a text. -/
def utf8 (text : List Char) : List UInt8 := text.flatMap String.utf8EncodeChar

/-- The first character of a text, and the bytes behind it. -/
def decodeChar (bytes : List UInt8) : Option (Char × List UInt8) :=
  (bytes.toByteArray.utf8DecodeChar? 0).map fun c => (c, bytes.drop c.utf8Size)

variable {c : Char} {bytes rest : List UInt8}

theorem decodeChar_append (c : Char) (rest : List UInt8) :
    decodeChar (String.utf8EncodeChar c ++ rest) = some (c, rest) := by
  rw [decodeChar, List.toByteArray_append, ByteArray.utf8DecodeChar?_utf8EncodeChar_append,
    Option.map_some, ← String.length_utf8EncodeChar, List.drop_left]

theorem eq_of_decodeChar (h : decodeChar bytes = some (c, rest)) :
    bytes = String.utf8EncodeChar c ++ rest := by
  rw [decodeChar, Option.map_eq_some_iff] at h
  obtain ⟨c', hdecode, hpair⟩ := h
  obtain ⟨rfl, rfl⟩ := Prod.mk.injEq .. ▸ hpair
  have hbytes : String.utf8EncodeChar c' = bytes.take c'.utf8Size := by
    simpa using congrArg (fun b => b.data.toList)
      (String.toByteArray_utf8EncodeChar_of_utf8DecodeChar?_eq_some hdecode)
  rw [hbytes, List.take_append_drop]

/-- A character of ASCII is a byte. -/
theorem utf8EncodeChar_ascii (h : c.toNat < 128) :
    String.utf8EncodeChar c = [UInt8.ofNat c.toNat] := by
  have hle : c.val.toNat ≤ 0x7F := Nat.le_of_lt_succ h
  simp only [String.utf8EncodeChar, if_pos hle]
  rfl

/-- The bytes of any other character are outside ASCII. -/
theorem le_of_mem_utf8EncodeChar (h : 128 ≤ c.toNat) :
    ∀ b ∈ String.utf8EncodeChar c, 128 ≤ b := by
  have hgt : ¬ c.val.toNat ≤ 0x7F := Nat.not_le_of_gt h
  intro b hb
  rw [UInt8.le_iff_toNat_le]
  simp only [String.utf8EncodeChar, if_neg hgt] at hb
  split at hb
  · simp only [List.mem_cons, List.not_mem_nil, or_false] at hb
    rcases hb with rfl | rfl <;> simp only [UInt8.toNat_ofNat'] <;> simp <;> omega
  · split at hb
    · simp only [List.mem_cons, List.not_mem_nil, or_false] at hb
      rcases hb with rfl | rfl | rfl <;> simp only [UInt8.toNat_ofNat'] <;> simp <;> omega
    · simp only [List.mem_cons, List.not_mem_nil, or_false] at hb
      rcases hb with rfl | rfl | rfl | rfl <;> simp only [UInt8.toNat_ofNat'] <;> simp <;> omega

/-! ## The grammar -/

/-- What may follow a backslash, apart from `u`, and the character the two
stand for. -/
def shortEscapes : List (UInt8 × Char) :=
  [(0x22, '"'), (0x5C, '\\'), (0x2F, '/'), (0x62, '\x08'), (0x66, '\x0c'), (0x6E, '\n'),
   (0x72, '\r'), (0x74, '\t')]

/-- A hexadecimal digit, in either case. -/
def hexValue (b : UInt8) : Option ℕ :=
  if 0x30 ≤ b ∧ b ≤ 0x39 then some (b.toNat - 0x30)
  else if 0x41 ≤ b ∧ b ≤ 0x46 then some (b.toNat - 0x37)
  else if 0x61 ≤ b ∧ b ≤ 0x66 then some (b.toNat - 0x57)
  else none

/-- The number of four hexadecimal digits. -/
def hex4 (b₁ b₂ b₃ b₄ : UInt8) : Option ℕ :=
  match hexValue b₁, hexValue b₂, hexValue b₃, hexValue b₄ with
  | some d₁, some d₂, some d₃, some d₄ => some (((d₁ * 16 + d₂) * 16 + d₃) * 16 + d₄)
  | _, _, _, _ => none

/-- A character that may stand for itself. -/
def Unescaped (c : Char) : Prop := 0x20 ≤ c.toNat ∧ c ≠ '"' ∧ c ≠ '\\'

instance : DecidablePred Unescaped := fun c =>
  inferInstanceAs (Decidable (0x20 ≤ c.toNat ∧ c ≠ '"' ∧ c ≠ '\\'))

/-- The character of a pair of surrogates. -/
def surrogatePair (high low : ℕ) : ℕ := 0x10000 + (high - 0xD800) * 0x400 + (low - 0xDC00)

/-- `char` of the grammar: the ways to spell a character. -/
inductive Spells : List UInt8 → Char → Prop
  | unescaped {c : Char} : Unescaped c → Spells (String.utf8EncodeChar c) c
  | short {b : UInt8} {c : Char} : (b, c) ∈ shortEscapes → Spells [0x5C, b] c
  | unicode {b₁ b₂ b₃ b₄ : UInt8} {c : Char} : hex4 b₁ b₂ b₃ b₄ = some c.toNat →
      Spells [0x5C, 0x75, b₁, b₂, b₃, b₄] c
  | surrogates {b₁ b₂ b₃ b₄ b₅ b₆ b₇ b₈ : UInt8} {high low : ℕ} {c : Char} :
      hex4 b₁ b₂ b₃ b₄ = some high → hex4 b₅ b₆ b₇ b₈ = some low →
      0xD800 ≤ high ∧ high < 0xDC00 → 0xDC00 ≤ low ∧ low < 0xE000 →
      c.toNat = surrogatePair high low →
      Spells [0x5C, 0x75, b₁, b₂, b₃, b₄, 0x5C, 0x75, b₅, b₆, b₇, b₈] c

/-- What is between the quotation marks. -/
inductive Body : List UInt8 → List Char → Prop
  | nil : Body [] []
  | cons {spelling body : List UInt8} {c : Char} {text : List Char} :
      Spells spelling c → Body body text → Body (spelling ++ body) (c :: text)

/-- `string` of the grammar, with the text it stands for. -/
def Literal (literal : List UInt8) (text : List Char) : Prop :=
  ∃ body, literal = 0x22 :: (body ++ [0x22]) ∧ Body body text

/-! ## The parser -/

/-- Read what follows `\u`. -/
def parseUnicode : List UInt8 → Option (Char × List UInt8)
  | b₁ :: b₂ :: b₃ :: b₄ :: bytes =>
    match hex4 b₁ b₂ b₃ b₄ with
    | none => none
    | some n =>
      if n.isValidChar then some (Char.ofNat n, bytes)
      else
        match bytes with
        | 0x5C :: 0x75 :: b₅ :: b₆ :: b₇ :: b₈ :: bytes =>
          match hex4 b₅ b₆ b₇ b₈ with
          | none => none
          | some low =>
            if n < 0xDC00 ∧ 0xDC00 ≤ low ∧ low < 0xE000 then
              some (Char.ofNat (surrogatePair n low), bytes)
            else none
        | _ => none
  | _ => none

/-- Read one character. -/
def parseChar : List UInt8 → Option (Char × List UInt8)
  | 0x5C :: b :: bytes =>
    if b = 0x75 then parseUnicode bytes else (shortEscapes.lookup b).map (·, bytes)
  | bytes => (decodeChar bytes).filter fun read => Unescaped read.1

/-- Read up to the closing quotation mark. -/
def parseBody : ℕ → List UInt8 → Option (List Char × List UInt8)
  | 0, _ => none
  | k + 1, bytes =>
    if bytes.head? = some 0x22 then some ([], bytes.drop 1)
    else
      match parseChar bytes with
      | none => none
      | some (c, rest) => (parseBody k rest).map fun read => (c :: read.1, read.2)

/-- Read a literal: its text, and what is behind it. -/
def parse : List UInt8 → Option (List Char × List UInt8)
  | 0x22 :: bytes => parseBody (bytes.length + 1) bytes
  | _ => none

/-! ## The parser is the grammar -/

variable {spelling body literal : List UInt8} {text : List Char}

/-- A character that stands for itself does not look like a quotation mark
or a backslash. -/
theorem Unescaped.head_ne (h : Unescaped c) (rest : List UInt8) :
    (String.utf8EncodeChar c ++ rest).head? ≠ some 0x22 ∧
      (String.utf8EncodeChar c ++ rest).head? ≠ some 0x5C := by
  rcases Nat.lt_or_ge c.toNat 128 with hascii | hother
  · have hbyte : ∀ n : ℕ, n < 128 → c.toNat ≠ n → UInt8.ofNat c.toNat ≠ UInt8.ofNat n := by
      intro n hn hne heq
      have hnat := congrArg UInt8.toNat heq
      rw [UInt8.toNat_ofNat', UInt8.toNat_ofNat'] at hnat
      omega
    have hquote : c.toNat ≠ 0x22 := fun hn => h.2.1 (Char.toNat_inj.mp hn)
    have hbackslash : c.toNat ≠ 0x5C := fun hn => h.2.2 (Char.toNat_inj.mp hn)
    rw [utf8EncodeChar_ascii hascii, List.singleton_append, List.head?_cons]
    exact ⟨fun heq => hbyte 0x22 (by decide) hquote (Option.some.inj heq),
      fun heq => hbyte 0x5C (by decide) hbackslash (Option.some.inj heq)⟩
  · have hbytes := le_of_mem_utf8EncodeChar hother
    cases hencode : String.utf8EncodeChar c with
    | nil => exact absurd hencode String.utf8EncodeChar_ne_nil
    | cons b bytes =>
      rw [hencode] at hbytes
      have hb := hbytes b List.mem_cons_self
      rw [List.cons_append, List.head?_cons]
      constructor <;>
      · intro heq
        rw [Option.some.inj heq] at hb
        exact absurd hb (by decide)

theorem parseChar_of_head_ne (h : bytes.head? ≠ some 0x5C) :
    parseChar bytes = (decodeChar bytes).filter fun read => Unescaped read.1 := by
  unfold parseChar
  split
  · exact absurd rfl h
  · rfl

theorem lookup_shortEscapes_iff {b : UInt8} :
    shortEscapes.lookup b = some c ↔ (b, c) ∈ shortEscapes := by
  constructor
  · intro h
    obtain ⟨before, after, hsplit, -⟩ := List.lookup_eq_some_iff.mp h
    rw [hsplit]
    exact List.mem_append_right _ List.mem_cons_self
  · intro h
    simp only [shortEscapes, List.mem_cons, Prod.mk.injEq, List.not_mem_nil, or_false] at h
    rcases h with ⟨rfl, rfl⟩ | ⟨rfl, rfl⟩ | ⟨rfl, rfl⟩ | ⟨rfl, rfl⟩ | ⟨rfl, rfl⟩ | ⟨rfl, rfl⟩ |
      ⟨rfl, rfl⟩ | ⟨rfl, rfl⟩ <;> rfl

/-- A spelling is read as its character. -/
theorem parseChar_append (h : Spells spelling c) (rest : List UInt8) :
    parseChar (spelling ++ rest) = some (c, rest) := by
  cases h with
  | unescaped hc =>
    rw [parseChar_of_head_ne (hc.head_ne rest).2, decodeChar_append]
    simp [hc]
  | @short b _ hb =>
    have hne : b ≠ 0x75 := by
      rintro rfl
      simp [shortEscapes] at hb
    simp only [List.cons_append, List.nil_append, parseChar, if_neg hne,
      lookup_shortEscapes_iff.mpr hb, Option.map_some]
  | unicode hn =>
    have hvalid : c.toNat.isValidChar := c.valid
    simp only [List.cons_append, List.nil_append, parseChar, parseUnicode, if_true, hn,
      if_pos hvalid, Char.ofNat_toNat]
  | @surrogates b₁ b₂ b₃ b₄ b₅ b₆ b₇ b₈ high low _ hhigh hlow hhigh' hlow' hc =>
    have hinvalid : ¬ high.isValidChar := by
      unfold Nat.isValidChar
      omega
    have hpair : high < 0xDC00 ∧ 0xDC00 ≤ low ∧ low < 0xE000 := ⟨hhigh'.2, hlow'⟩
    simp only [List.cons_append, List.nil_append, parseChar, parseUnicode, if_true, hhigh,
      if_neg hinvalid, hlow, if_pos hpair, ← hc, Char.ofNat_toNat]

theorem toNat_ofNat {n : ℕ} (h : n.isValidChar) : (Char.ofNat n).toNat = n := by
  rw [Char.ofNat, dif_pos h]
  rfl

theorem spells_of_parseUnicode (h : parseUnicode bytes = some (c, rest)) :
    ∃ digits, Spells (0x5C :: 0x75 :: digits) c ∧ bytes = digits ++ rest := by
  unfold parseUnicode at h
  split at h
  swap
  · cases h
  next b₁ b₂ b₃ b₄ bytes =>
  split at h
  · cases h
  next n hn =>
  by_cases hvalid : n.isValidChar
  · rw [if_pos hvalid] at h
    obtain ⟨rfl, rfl⟩ := Prod.mk.injEq .. ▸ Option.some.inj h
    refine ⟨[b₁, b₂, b₃, b₄], .unicode ?_, rfl⟩
    rw [hn, toNat_ofNat hvalid]
  rw [if_neg hvalid] at h
  split at h
  swap
  · cases h
  next b₅ b₆ b₇ b₈ bytes =>
  split at h
  · cases h
  next low hlow =>
  split at h
  swap
  · cases h
  next hpair =>
  obtain ⟨rfl, rfl⟩ := Prod.mk.injEq .. ▸ Option.some.inj h
  have hhigh : 0xD800 ≤ n := by
    unfold Nat.isValidChar at hvalid
    omega
  refine ⟨[b₁, b₂, b₃, b₄, 0x5C, 0x75, b₅, b₆, b₇, b₈],
    .surrogates hn hlow ⟨hhigh, hpair.1⟩ hpair.2 ?_, rfl⟩
  have hchar : (surrogatePair n low).isValidChar := by
    unfold surrogatePair Nat.isValidChar
    omega
  exact toNat_ofNat hchar

/-- What is read as a character spells it. -/
theorem spells_of_parseChar (h : parseChar bytes = some (c, rest)) :
    ∃ spelling, Spells spelling c ∧ bytes = spelling ++ rest := by
  by_cases hhead : bytes.head? = some 0x5C
  swap
  · rw [parseChar_of_head_ne hhead, Option.filter_eq_some_iff] at h
    exact ⟨_, .unescaped (by simpa using h.2), eq_of_decodeChar h.1⟩
  unfold parseChar at h
  split at h
  · next b bytes =>
    split at h
    · next hb =>
      subst hb
      obtain ⟨digits, hspells, rfl⟩ := spells_of_parseUnicode h
      exact ⟨_, hspells, rfl⟩
    · rw [Option.map_eq_some_iff] at h
      obtain ⟨c', hlookup, hpair⟩ := h
      obtain ⟨rfl, rfl⟩ := Prod.mk.injEq .. ▸ hpair
      exact ⟨_, .short (lookup_shortEscapes_iff.mp hlookup), rfl⟩
  · -- a backslash at the end of the text
    rw [Option.filter_eq_some_iff] at h
    have hbytes := eq_of_decodeChar h.1
    have hne := (Unescaped.head_ne (by simpa using h.2) rest).2
    rw [← hbytes] at hne
    exact absurd hhead hne

theorem Spells.length_pos (h : Spells spelling c) : 0 < spelling.length := by
  cases h with
  | unescaped => exact List.length_pos_of_ne_nil String.utf8EncodeChar_ne_nil
  | short => exact Nat.succ_pos _
  | unicode => exact Nat.succ_pos _
  | surrogates => exact Nat.succ_pos _

theorem Spells.head_ne (h : Spells spelling c) (rest : List UInt8) :
    (spelling ++ rest).head? ≠ some 0x22 := by
  cases h with
  | unescaped hc => exact (hc.head_ne rest).1
  | short => exact fun heq => absurd (Option.some.inj heq) (by decide)
  | unicode => exact fun heq => absurd (Option.some.inj heq) (by decide)
  | surrogates => exact fun heq => absurd (Option.some.inj heq) (by decide)

theorem parseBody_append (h : Body body text) (rest : List UInt8) :
    ∀ k, body.length < k → parseBody k (body ++ 0x22 :: rest) = some (text, rest) := by
  induction h with
  | nil =>
    intro k hk
    obtain ⟨k, rfl⟩ : ∃ j, k = j + 1 := ⟨k - 1, by omega⟩
    rfl
  | @cons spelling body c text hspells _ ih =>
    intro k hk
    obtain ⟨k, rfl⟩ : ∃ j, k = j + 1 := ⟨k - 1, by omega⟩
    have hpos := hspells.length_pos
    rw [List.length_append] at hk
    rw [List.append_assoc, parseBody, if_neg (hspells.head_ne _), parseChar_append hspells]
    simp only [ih k (by omega), Option.map_some]

theorem body_of_parseBody (k : ℕ) : ∀ {bytes : List UInt8} {text : List Char},
    parseBody k bytes = some (text, rest) →
      ∃ body, Body body text ∧ bytes = body ++ 0x22 :: rest := by
  induction k with
  | zero =>
    intro bytes text h
    cases h
  | succ k ih =>
    intro bytes text h
    rw [parseBody] at h
    by_cases hquote : bytes.head? = some 0x22
    · rw [if_pos hquote] at h
      obtain ⟨rfl, rfl⟩ := Prod.mk.injEq .. ▸ Option.some.inj h
      refine ⟨[], .nil, ?_⟩
      cases bytes with
      | nil => cases hquote
      | cons b bytes => rw [Option.some.inj hquote]; rfl
    · rw [if_neg hquote] at h
      cases hread : parseChar bytes with
      | none => simp only [hread, reduceCtorEq] at h
      | some read =>
        obtain ⟨c, behind⟩ := read
        simp only [hread, Option.map_eq_some_iff] at h
        obtain ⟨⟨text', rest'⟩, hrest, hpair⟩ := h
        obtain ⟨rfl, rfl⟩ := Prod.mk.injEq .. ▸ hpair
        obtain ⟨spelling, hspells, rfl⟩ := spells_of_parseChar hread
        obtain ⟨body, hbody, rfl⟩ := ih hrest
        exact ⟨spelling ++ body, .cons hspells hbody, (List.append_assoc ..).symm⟩

/-- **A literal is read as what it stands for**, whatever is behind it. -/
theorem Literal.parse_append (h : Literal literal text) (rest : List UInt8) :
    parse (literal ++ rest) = some (text, rest) := by
  obtain ⟨body, rfl, hbody⟩ := h
  rw [List.cons_append, List.append_assoc, parse, List.singleton_append]
  refine parseBody_append hbody rest _ ?_
  rw [List.length_append, List.length_cons]
  omega

/-- **The parser is the grammar.** -/
theorem parse_eq_some_iff :
    parse bytes = some (text, rest) ↔ ∃ literal, Literal literal text ∧ bytes = literal ++ rest := by
  constructor
  · intro h
    unfold parse at h
    split at h
    · obtain ⟨body, hbody, rfl⟩ := body_of_parseBody _ h
      refine ⟨_, ⟨body, rfl, hbody⟩, ?_⟩
      rw [List.cons_append, List.append_assoc, List.singleton_append]
    · cases h
  · rintro ⟨literal, hliteral, rfl⟩
    exact hliteral.parse_append rest

/-- **No literal goes on into another**: of a text that begins with two
literals, they are the same one. -/
theorem Literal.unique {literal' : List UInt8} {text' : List Char} {rest rest' : List UInt8}
    (h : Literal literal text) (h' : Literal literal' text')
    (hsame : literal ++ rest = literal' ++ rest') :
    literal = literal' ∧ text = text' ∧ rest = rest' := by
  have hparse := h.parse_append rest
  rw [hsame, h'.parse_append rest'] at hparse
  obtain ⟨rfl, rfl⟩ := Prod.mk.injEq .. ▸ Option.some.inj hparse
  exact ⟨List.append_cancel_right hsame, rfl, rfl⟩

end JsonString
