import PutGateway.Lib.JsonString
import Mathlib.Data.List.TakeWhile
/-!
# JSON texts

A value of JSON is spelt as one sequence of tokens (`Value.tokens`), and a
text spells a sequence of tokens with white space between them (`Lexes`,
the lexical part of RFC 8259). So a text is well formed, with a value,
when it spells the tokens of the value (`Text`), and the parser reads it
back as that value (`Text.parse`).

A text put together from pieces is well formed when each piece is lexed
and no number goes on into the piece behind it (`Lexes.append`).
-/

namespace Json

/-! ## Values and tokens -/

/-- A value. A number is kept as it is spelt. -/
inductive Value
  | null
  | bool (b : Bool)
  | number (lexeme : List UInt8)
  | string (text : List Char)
  | array (items : List Value)
  | object (members : List (List Char × Value))

/-- A token. -/
inductive Token
  | leftBrace
  | rightBrace
  | leftBracket
  | rightBracket
  | colon
  | comma
  | null
  | bool (b : Bool)
  | number (lexeme : List UInt8)
  | string (text : List Char)
  deriving DecidableEq

mutual

/-- The tokens of a value. -/
def Value.tokens : Value → List Token
  | .null => [.null]
  | .bool b => [.bool b]
  | .number lexeme => [.number lexeme]
  | .string text => [.string text]
  | .array [] => [.leftBracket, .rightBracket]
  | .array (v :: items) => .leftBracket :: (v.tokens ++ moreItems items)
  | .object [] => [.leftBrace, .rightBrace]
  | .object ((key, v) :: members) =>
    .leftBrace :: .string key :: .colon :: (v.tokens ++ moreMembers members)

/-- The tokens behind an item of an array. -/
def moreItems : List Value → List Token
  | [] => [.rightBracket]
  | v :: items => .comma :: (v.tokens ++ moreItems items)

/-- The tokens behind a member of an object. -/
def moreMembers : List (List Char × Value) → List Token
  | [] => [.rightBrace]
  | (key, v) :: members => .comma :: .string key :: .colon :: (v.tokens ++ moreMembers members)

end

/-! ## The parser, over tokens -/

mutual

/-- Read a value: the value, and what is behind it. -/
def parseValue : ℕ → List Token → Option (Value × List Token)
  | 0, _ => none
  | _ + 1, .null :: ts => some (.null, ts)
  | _ + 1, .bool b :: ts => some (.bool b, ts)
  | _ + 1, .number lexeme :: ts => some (.number lexeme, ts)
  | _ + 1, .string text :: ts => some (.string text, ts)
  | _ + 1, .leftBracket :: .rightBracket :: ts => some (.array [], ts)
  | k + 1, .leftBracket :: ts =>
    match parseValue k ts with
    | none => none
    | some (v, ts) => (parseMoreItems k ts).map fun read => (.array (v :: read.1), read.2)
  | _ + 1, .leftBrace :: .rightBrace :: ts => some (.object [], ts)
  | k + 1, .leftBrace :: .string key :: .colon :: ts =>
    match parseValue k ts with
    | none => none
    | some (v, ts) =>
      (parseMoreMembers k ts).map fun read => (.object ((key, v) :: read.1), read.2)
  | _ + 1, _ => none

/-- Read what is behind an item of an array. -/
def parseMoreItems : ℕ → List Token → Option (List Value × List Token)
  | _ + 1, .rightBracket :: ts => some ([], ts)
  | k + 1, .comma :: ts =>
    match parseValue k ts with
    | none => none
    | some (v, ts) => (parseMoreItems k ts).map fun read => (v :: read.1, read.2)
  | _, _ => none

/-- Read what is behind a member of an object. -/
def parseMoreMembers : ℕ → List Token → Option (List (List Char × Value) × List Token)
  | _ + 1, .rightBrace :: ts => some ([], ts)
  | k + 1, .comma :: .string key :: .colon :: ts =>
    match parseValue k ts with
    | none => none
    | some (v, ts) => (parseMoreMembers k ts).map fun read => ((key, v) :: read.1, read.2)
  | _, _ => none

end

/-! ## The parser reads the tokens of a value -/

theorem parseValue_leftBracket {k : ℕ} {ts : List Token} (h : ts.head? ≠ some .rightBracket) :
    parseValue (k + 1) (.leftBracket :: ts) =
      match parseValue k ts with
      | none => none
      | some (v, ts) => (parseMoreItems k ts).map fun read => (.array (v :: read.1), read.2) := by
  cases ts with
  | nil => rfl
  | cons t ts =>
    cases t with
    | rightBracket => exact absurd rfl h
    | _ => rfl

/-- No value begins with a bracket that closes. -/
theorem Value.head_tokens_append (v : Value) (ts : List Token) :
    (v.tokens ++ ts).head? ≠ some .rightBracket := by
  cases v with
  | array items => cases items <;> simp [Value.tokens]
  | object members => cases members <;> simp [Value.tokens]
  | _ => simp [Value.tokens]

-- one statement for each of the three parsers, by their recursion
mutual

/-- **The tokens of a value are read as the value**, whatever is behind
them. -/
theorem parseValue_tokens (v : Value) (rest : List Token) (k : ℕ)
    (hk : (v.tokens ++ rest).length < k) : parseValue k (v.tokens ++ rest) = some (v, rest) := by
  obtain ⟨k, rfl⟩ : ∃ j, k = j + 1 := ⟨k - 1, by omega⟩
  match v with
  | .null => rfl
  | .bool b => rfl
  | .number lexeme => rfl
  | .string text => rfl
  | .array [] => rfl
  | .array (v :: items) =>
    simp only [Value.tokens, List.cons_append, List.append_assoc, List.length_cons] at hk ⊢
    rw [parseValue_leftBracket (v.head_tokens_append _),
      parseValue_tokens v (moreItems items ++ rest) k (by omega)]
    simp only [List.length_append] at hk
    simp only [parseMoreItems_append items rest k (by rw [List.length_append]; omega),
      Option.map_some]
  | .object [] => rfl
  | .object ((key, v) :: members) =>
    simp only [Value.tokens, List.cons_append, List.append_assoc, List.length_cons] at hk ⊢
    rw [parseValue, parseValue_tokens v (moreMembers members ++ rest) k (by omega)]
    simp only [List.length_append] at hk
    simp only [parseMoreMembers_append members rest k (by rw [List.length_append]; omega),
      Option.map_some]

theorem parseMoreItems_append (items : List Value) (rest : List Token) (k : ℕ)
    (hk : (moreItems items ++ rest).length < k) :
    parseMoreItems k (moreItems items ++ rest) = some (items, rest) := by
  obtain ⟨k, rfl⟩ : ∃ j, k = j + 1 := ⟨k - 1, by omega⟩
  match items with
  | [] => rfl
  | v :: items =>
    simp only [moreItems, List.cons_append, List.append_assoc, List.length_cons] at hk ⊢
    rw [parseMoreItems, parseValue_tokens v (moreItems items ++ rest) k (by omega)]
    simp only [List.length_append] at hk
    simp only [parseMoreItems_append items rest k (by rw [List.length_append]; omega),
      Option.map_some]

theorem parseMoreMembers_append (members : List (List Char × Value)) (rest : List Token) (k : ℕ)
    (hk : (moreMembers members ++ rest).length < k) :
    parseMoreMembers k (moreMembers members ++ rest) = some (members, rest) := by
  obtain ⟨k, rfl⟩ : ∃ j, k = j + 1 := ⟨k - 1, by omega⟩
  match members with
  | [] => rfl
  | (key, v) :: members =>
    simp only [moreMembers, List.cons_append, List.append_assoc, List.length_cons] at hk ⊢
    rw [parseMoreMembers, parseValue_tokens v (moreMembers members ++ rest) k (by omega)]
    simp only [List.length_append] at hk
    simp only [parseMoreMembers_append members rest k (by rw [List.length_append]; omega),
      Option.map_some]

end

/-! ## The spelling of tokens -/

/-- White space. -/
def isSpace (b : UInt8) : Bool := b = 0x20 || b = 0x09 || b = 0x0A || b = 0x0D

/-- The tokens of one byte. -/
def punctuation : List (UInt8 × Token) :=
  [(0x7B, .leftBrace), (0x7D, .rightBrace), (0x5B, .leftBracket), (0x5D, .rightBracket),
   (0x3A, .colon), (0x2C, .comma)]

/-- `true`, `false` and `null`. -/
def words : List (List UInt8 × Token) :=
  [([0x74, 0x72, 0x75, 0x65], .bool true), ([0x66, 0x61, 0x6C, 0x73, 0x65], .bool false),
   ([0x6E, 0x75, 0x6C, 0x6C], .null)]

def isDigit (b : UInt8) : Bool := 0x30 ≤ b && b ≤ 0x39

/-- A byte of a number. -/
def isNumberByte (b : UInt8) : Bool :=
  isDigit b || b = 0x2B || b = 0x2D || b = 0x2E || b = 0x45 || b = 0x65

def isDigits (bytes : List UInt8) : Bool := bytes ≠ [] && bytes.all isDigit

/-- `int` of the grammar: no zero leads it. -/
def isInt (bytes : List UInt8) : Bool :=
  isDigits bytes && (bytes.length = 1 || bytes.head? ≠ some 0x30)

/-- `[ exp ]` of the grammar. -/
def isExponent : List UInt8 → Bool
  | [] => true
  | e :: bytes =>
    (e = 0x45 || e = 0x65) &&
      isDigits (if bytes.head? = some 0x2B ∨ bytes.head? = some 0x2D then bytes.drop 1 else bytes)

/-- `[ frac ] [ exp ]` of the grammar. -/
def isFraction : List UInt8 → Bool
  | 0x2E :: bytes => isDigits (bytes.takeWhile isDigit) && isExponent (bytes.dropWhile isDigit)
  | bytes => isExponent bytes

/-- `number` of the grammar: `[ minus ] int [ frac ] [ exp ]`. -/
def isNumber (lexeme : List UInt8) : Bool :=
  let bytes := if lexeme.head? = some 0x2D then lexeme.drop 1 else lexeme
  lexeme.all isNumberByte && isInt (bytes.takeWhile isDigit) &&
    isFraction (bytes.dropWhile isDigit)

/-- The ways to spell a token. -/
inductive Spelling : List UInt8 → Token → Prop
  | punctuation {b : UInt8} {t : Token} : (b, t) ∈ punctuation → Spelling [b] t
  | word {w : List UInt8} {t : Token} : (w, t) ∈ words → Spelling w t
  | number {lexeme : List UInt8} : isNumber lexeme → Spelling lexeme (.number lexeme)
  | string {literal : List UInt8} {text : List Char} :
      JsonString.Literal literal text → Spelling literal (.string text)

/-- What may be behind a token: a number ends where no byte of a number
follows. -/
def Token.Stops : Token → List UInt8 → Prop
  | .number _, rest => ∀ b ∈ rest.head?, isNumberByte b = false
  | _, _ => True

/-- A text spells a sequence of tokens, with white space around them. -/
inductive Lexes : List UInt8 → List Token → Prop
  | nil : Lexes [] []
  | space {b : UInt8} {bytes : List UInt8} {ts : List Token} :
      isSpace b → Lexes bytes ts → Lexes (b :: bytes) ts
  | token {spelling bytes : List UInt8} {t : Token} {ts : List Token} :
      Spelling spelling t → t.Stops bytes → Lexes bytes ts → Lexes (spelling ++ bytes) (t :: ts)

/-- **A well-formed text**, with the value it spells. -/
def Text (bytes : List UInt8) (v : Value) : Prop := Lexes bytes v.tokens

/-! ## The lexer -/

/-- Read one token. -/
def readToken : List UInt8 → Option (Token × List UInt8)
  | [] => none
  | b :: bytes =>
    match punctuation.lookup b with
    | some t => some (t, bytes)
    | none =>
      if b = 0x22 then (JsonString.parse (b :: bytes)).map fun read => (.string read.1, read.2)
      else if isNumberByte b then
        let lexeme := (b :: bytes).takeWhile isNumberByte
        if isNumber lexeme then some (.number lexeme, (b :: bytes).dropWhile isNumberByte) else none
      else
        (words.find? fun word => word.1.isPrefixOf (b :: bytes)).map fun word =>
          (word.2, (b :: bytes).drop word.1.length)

/-- The tokens of a text. -/
def lexFrom : ℕ → List UInt8 → Option (List Token)
  | 0, _ => none
  | _ + 1, [] => some []
  | k + 1, b :: bytes =>
    if isSpace b then lexFrom k bytes
    else
      match readToken (b :: bytes) with
      | none => none
      | some (t, rest) => (lexFrom k rest).map (t :: ·)

/-- The tokens of a text. -/
def lex (bytes : List UInt8) : Option (List Token) := lexFrom (bytes.length + 1) bytes

/-- The value of a text. -/
def parse (bytes : List UInt8) : Option Value :=
  match lex bytes with
  | none => none
  | some ts =>
    match parseValue (ts.length + 1) ts with
    | some (v, []) => some v
    | _ => none

/-! ## The lexer reads what spells -/

variable {b : UInt8} {bytes rest spelling : List UInt8} {t : Token} {ts : List Token}

theorem byte_cases : ∀ n < 256,
    (isNumberByte (UInt8.ofNat n) → punctuation.lookup (UInt8.ofNat n) = none ∧
      UInt8.ofNat n ≠ 0x22 ∧ isSpace (UInt8.ofNat n) = false) ∧
    ((punctuation.lookup (UInt8.ofNat n)).isSome → isSpace (UInt8.ofNat n) = false) := by
  decide +kernel

/-- A byte of a number is neither punctuation, nor a quotation mark, nor
white space. -/
theorem eq_of_isNumberByte (h : isNumberByte b) :
    punctuation.lookup b = none ∧ b ≠ 0x22 ∧ isSpace b = false := by
  have hcases := (byte_cases b.toNat b.toNat_lt).1
  rw [UInt8.ofNat_toNat] at hcases
  exact hcases h

theorem mem_of_lookup {α : Type} {l : List (UInt8 × α)} {a : α} (h : l.lookup b = some a) :
    (b, a) ∈ l := by
  obtain ⟨before, after, hsplit, -⟩ := List.lookup_eq_some_iff.mp h
  rw [hsplit]
  exact List.mem_append_right _ List.mem_cons_self

theorem all_of_isNumber (h : isNumber bytes) : bytes.all isNumberByte := by
  rw [isNumber, Bool.and_eq_true, Bool.and_eq_true] at h
  exact h.1.1

theorem ne_nil_of_isNumber (h : isNumber bytes) : bytes ≠ [] := by
  rintro rfl
  exact absurd h (by decide)

/-- No spelling is empty, and none begins with white space. -/
theorem Spelling.head (h : Spelling spelling t) :
    ∃ b bytes, spelling = b :: bytes ∧ isSpace b = false := by
  cases h with
  | @punctuation b _ hb =>
    simp only [Json.punctuation, List.mem_cons, Prod.mk.injEq, List.not_mem_nil, or_false] at hb
    rcases hb with ⟨rfl, -⟩ | ⟨rfl, -⟩ | ⟨rfl, -⟩ | ⟨rfl, -⟩ | ⟨rfl, -⟩ | ⟨rfl, -⟩ <;>
    exact ⟨_, _, rfl, rfl⟩
  | word hw =>
    simp only [words, List.mem_cons, Prod.mk.injEq, List.not_mem_nil, or_false] at hw
    rcases hw with ⟨rfl, -⟩ | ⟨rfl, -⟩ | ⟨rfl, -⟩ <;> exact ⟨_, _, rfl, rfl⟩
  | number hnumber =>
    have hall := all_of_isNumber hnumber
    cases hlexeme : spelling with
    | nil => exact absurd hlexeme (ne_nil_of_isNumber hnumber)
    | cons b bytes =>
      rw [hlexeme, List.all_cons, Bool.and_eq_true] at hall
      exact ⟨b, bytes, rfl, (eq_of_isNumberByte hall.1).2.2⟩
  | string hliteral =>
    obtain ⟨body, rfl, -⟩ := hliteral
    exact ⟨_, _, rfl, rfl⟩

theorem stops_punctuation (h : punctuation.lookup b = some t) : t.Stops rest := by
  have hmem := mem_of_lookup h
  simp only [punctuation, List.mem_cons, Prod.mk.injEq, List.not_mem_nil, or_false] at hmem
  rcases hmem with ⟨-, rfl⟩ | ⟨-, rfl⟩ | ⟨-, rfl⟩ | ⟨-, rfl⟩ | ⟨-, rfl⟩ | ⟨-, rfl⟩ <;> trivial

theorem stops_word {w : List UInt8} (h : (w, t) ∈ words) : t.Stops rest := by
  simp only [words, List.mem_cons, Prod.mk.injEq, List.not_mem_nil, or_false] at h
  rcases h with ⟨-, rfl⟩ | ⟨-, rfl⟩ | ⟨-, rfl⟩ <;> trivial

theorem takeWhile_number (hall : spelling.all isNumberByte)
    (hstop : ∀ b ∈ rest.head?, isNumberByte b = false) :
    (spelling ++ rest).takeWhile isNumberByte = spelling ∧
      (spelling ++ rest).dropWhile isNumberByte = rest := by
  rw [List.all_eq_true] at hall
  have hrest : rest.takeWhile isNumberByte = [] ∧ rest.dropWhile isNumberByte = rest := by
    cases rest with
    | nil => exact ⟨rfl, rfl⟩
    | cons b rest =>
      have hb := hstop b rfl
      exact ⟨List.takeWhile_cons_of_neg (by simp [hb]), List.dropWhile_cons_of_neg (by simp [hb])⟩
  rw [List.takeWhile_append_of_pos hall, List.dropWhile_append_of_pos hall, hrest.1, hrest.2,
    List.append_nil]
  exact ⟨rfl, rfl⟩

/-- A token is read off the front of a text. -/
theorem readToken_append (h : Spelling spelling t) (hstop : t.Stops rest) :
    readToken (spelling ++ rest) = some (t, rest) := by
  cases h with
  | @punctuation b _ hb =>
    simp only [Json.punctuation, List.mem_cons, Prod.mk.injEq, List.not_mem_nil, or_false] at hb
    rcases hb with ⟨rfl, rfl⟩ | ⟨rfl, rfl⟩ | ⟨rfl, rfl⟩ | ⟨rfl, rfl⟩ | ⟨rfl, rfl⟩ | ⟨rfl, rfl⟩ <;>
    rfl
  | word hw =>
    simp only [words, List.mem_cons, Prod.mk.injEq, List.not_mem_nil, or_false] at hw
    rcases hw with ⟨rfl, rfl⟩ | ⟨rfl, rfl⟩ | ⟨rfl, rfl⟩ <;> rfl
  | number hnumber =>
    have hall := all_of_isNumber hnumber
    have hwhile := takeWhile_number hall hstop
    cases spelling with
    | nil => exact absurd rfl (ne_nil_of_isNumber hnumber)
    | cons b bytes =>
      rw [List.all_cons, Bool.and_eq_true] at hall
      obtain ⟨hlookup, hquote, -⟩ := eq_of_isNumberByte hall.1
      rw [List.cons_append] at hwhile ⊢
      simp only [readToken, hlookup, if_neg hquote, if_pos hall.1, hwhile.1, hwhile.2,
        if_pos hnumber]
  | string hliteral =>
    have hread := hliteral.parse_append rest
    obtain ⟨body, rfl, -⟩ := hliteral
    rw [List.cons_append] at hread ⊢
    have hlookup : punctuation.lookup 0x22 = none := rfl
    simp only [readToken, hlookup, if_true, hread, Option.map_some]

/-- What is read as a token spells it. -/
theorem spelling_of_readToken (h : readToken bytes = some (t, rest)) :
    ∃ spelling, Spelling spelling t ∧ t.Stops rest ∧ bytes = spelling ++ rest := by
  unfold readToken at h
  split at h
  · cases h
  next b bytes =>
  split at h
  · next hlookup =>
    obtain ⟨rfl, rfl⟩ := Prod.mk.injEq .. ▸ Option.some.inj h
    exact ⟨[b], .punctuation (mem_of_lookup hlookup), stops_punctuation hlookup, rfl⟩
  next hlookup =>
  by_cases hquote : b = 0x22
  · rw [if_pos hquote, Option.map_eq_some_iff] at h
    obtain ⟨⟨text, behind⟩, hread, hpair⟩ := h
    obtain ⟨rfl, rfl⟩ := Prod.mk.injEq .. ▸ hpair
    obtain ⟨literal, hliteral, hbytes⟩ := JsonString.parse_eq_some_iff.mp hread
    exact ⟨literal, .string hliteral, trivial, hbytes⟩
  rw [if_neg hquote] at h
  by_cases hnumber : isNumberByte b
  · rw [if_pos hnumber] at h
    dsimp only at h
    split at h
    swap
    · cases h
    next hlexeme =>
    obtain ⟨rfl, rfl⟩ := Prod.mk.injEq .. ▸ Option.some.inj h
    refine ⟨_, .number hlexeme, ?_, List.takeWhile_append_dropWhile.symm⟩
    intro b' hb'
    have hhead := List.head?_dropWhile_not isNumberByte (b :: bytes)
    rw [Option.mem_def.mp hb'] at hhead
    simpa using hhead
  · rw [if_neg hnumber, Option.map_eq_some_iff] at h
    obtain ⟨⟨w, t'⟩, hfind, hpair⟩ := h
    obtain ⟨rfl, rfl⟩ := Prod.mk.injEq .. ▸ hpair
    have hmem := List.mem_of_find?_eq_some hfind
    have hprefix := List.find?_some hfind
    rw [List.isPrefixOf_iff_prefix] at hprefix
    exact ⟨w, .word hmem, stops_word hmem, (List.prefix_iff_eq_append.mp hprefix).symm⟩

theorem Lexes.lexFrom (h : Lexes bytes ts) :
    ∀ k, bytes.length < k → lexFrom k bytes = some ts := by
  induction h with
  | nil =>
    intro k hk
    obtain ⟨k, rfl⟩ : ∃ j, k = j + 1 := ⟨k - 1, by omega⟩
    rfl
  | @space b bytes ts hspace _ ih =>
    intro k hk
    obtain ⟨k, rfl⟩ : ∃ j, k = j + 1 := ⟨k - 1, by omega⟩
    rw [List.length_cons] at hk
    rw [Json.lexFrom, if_pos hspace, ih k (by omega)]
  | @token spelling bytes t ts hspelling hstop _ ih =>
    intro k hk
    obtain ⟨k, rfl⟩ : ∃ j, k = j + 1 := ⟨k - 1, by omega⟩
    have hread := readToken_append hspelling hstop
    obtain ⟨b, body, rfl, hspace⟩ := hspelling.head
    rw [List.length_append, List.length_cons] at hk
    rw [List.cons_append] at hread ⊢
    rw [Json.lexFrom, hspace, if_neg Bool.false_ne_true, hread]
    simp only [ih k (by omega), Option.map_some]

theorem lexes_of_lexFrom (k : ℕ) : ∀ {bytes : List UInt8} {ts : List Token},
    lexFrom k bytes = some ts → Lexes bytes ts := by
  induction k with
  | zero =>
    intro bytes ts h
    cases h
  | succ k ih =>
    intro bytes ts h
    cases bytes with
    | nil =>
      cases h
      exact .nil
    | cons b bytes =>
      rw [lexFrom] at h
      by_cases hspace : isSpace b
      · rw [if_pos hspace] at h
        exact .space hspace (ih h)
      rw [if_neg hspace] at h
      split at h
      · cases h
      next t rest hread =>
      rw [Option.map_eq_some_iff] at h
      obtain ⟨ts', hrest, rfl⟩ := h
      obtain ⟨spelling, hspelling, hstop, hbytes⟩ := spelling_of_readToken hread
      rw [hbytes]
      exact .token hspelling hstop (ih hrest)

/-- **The lexer is the grammar of tokens.** -/
theorem lex_eq_some_iff : lex bytes = some ts ↔ Lexes bytes ts :=
  ⟨lexes_of_lexFrom _, fun h => h.lexFrom _ (Nat.lt_succ_self _)⟩

/-- **A well-formed text is read as its value.** -/
theorem Text.parse {v : Value} (h : Text bytes v) : parse bytes = some v := by
  have hvalue := parseValue_tokens v [] (v.tokens.length + 1)
    (by rw [List.append_nil]; exact Nat.lt_succ_self _)
  rw [List.append_nil] at hvalue
  rw [Json.parse, lex_eq_some_iff.mpr h]
  simp only [hvalue]

/-! ## Natural numbers -/

/-- A natural number in decimal. -/
def decimal (n : ℕ) : List UInt8 := (Nat.toDigits 10 n).map fun c => c.toNat.toUInt8

/-- The natural number a lexeme spells, where it has neither a sign nor a
fraction nor an exponent. -/
def natural (lexeme : List UInt8) : Option ℕ :=
  if lexeme.all isDigit then
    some (Nat.ofDigitChars 10 (lexeme.map fun b => Char.ofNat b.toNat) 0)
  else none

theorem digit_byte : ∀ n < 128, (Char.ofNat n).isDigit →
    isDigit (Char.ofNat n).toNat.toUInt8 ∧
      Char.ofNat (Char.ofNat n).toNat.toUInt8.toNat = Char.ofNat n := by
  decide +kernel

theorem byte_of_isDigit {c : Char} (h : c.isDigit) :
    isDigit c.toNat.toUInt8 ∧ Char.ofNat c.toNat.toUInt8.toNat = c := by
  have hlt : c.toNat < 128 := by
    simp only [Char.isDigit, Bool.and_eq_true, decide_eq_true_eq] at h
    have hle : c.val.toNat ≤ 57 := UInt32.le_iff_toNat_le.mp h.2
    have hval : c.toNat = c.val.toNat := rfl
    omega
  have hbyte := digit_byte c.toNat hlt
  rw [Char.ofNat_toNat] at hbyte
  exact hbyte h

theorem all_isDigit_decimal (n : ℕ) : (decimal n).all isDigit := by
  rw [decimal, List.all_map, List.all_eq_true]
  intro c hc
  exact (byte_of_isDigit (Nat.isDigit_of_mem_toDigits (by decide) (by decide) hc)).1

/-- **A number in decimal is read back.** -/
theorem natural_decimal (n : ℕ) : natural (decimal n) = some n := by
  have hchars : (decimal n).map (fun b => Char.ofNat b.toNat) = Nat.toDigits 10 n := by
    rw [decimal, List.map_map]
    exact (List.map_congr_left fun c hc =>
      (byte_of_isDigit (Nat.isDigit_of_mem_toDigits (by decide) (by decide) hc)).2).trans
        (List.map_id' _)
  rw [natural, if_pos (all_isDigit_decimal n), hchars, Nat.ofDigitChars_ten_toDigits]

/-- No zero leads a number, unless it is zero. -/
theorem head_toDigits (n : ℕ) : n < 10 ∨ (Nat.toDigits 10 n).head? ≠ some '0' := by
  induction n using Nat.strongRecOn with
  | ind n ih =>
    rcases Nat.lt_or_ge n 10 with hsmall | hlarge
    · exact .inl hsmall
    right
    have hdigits := Nat.toDigits_of_base_le (by decide : 1 < 10) hlarge
    have hne : Nat.toDigits 10 (n / 10) ≠ [] := Nat.toDigits_ne_nil
    rw [hdigits, List.head?_append_of_ne_nil _ hne]
    rcases ih (n / 10) (by omega) with htop | htop
    · rw [Nat.toDigits_of_lt_base htop, List.head?_cons]
      intro heq
      have hzero := Nat.digitChar_eq_zero.mp (Option.some.inj heq)
      omega
    · exact htop

theorem isNumber_decimal (n : ℕ) : isNumber (decimal n) := by
  have hall := all_isDigit_decimal n
  have hne : decimal n ≠ [] := by
    rw [decimal, ne_eq, List.map_eq_nil_iff]
    exact Nat.toDigits_ne_nil
  have hpos : ∀ b ∈ decimal n, isDigit b := List.all_eq_true.mp hall
  have hsign : (decimal n).head? ≠ some 0x2D := by
    intro hhead
    have hdigit := hpos 0x2D (List.mem_of_head? hhead)
    exact absurd hdigit (by decide)
  have hbytes : (decimal n).all isNumberByte := by
    rw [List.all_eq_true]
    intro b hb
    simp only [isNumberByte, hpos b hb, Bool.true_or]
  have hint : isInt (decimal n) := by
    have hlead : (decimal n).length = 1 ∨ (decimal n).head? ≠ some 0x30 := by
      rcases head_toDigits n with hsmall | hhead
      · left
        rw [decimal, Nat.toDigits_of_lt_base hsmall]
        rfl
      · right
        intro hzero
        rw [decimal, List.head?_map, Option.map_eq_some_iff] at hzero
        obtain ⟨c, hc, hbyte⟩ := hzero
        have hdigit := byte_of_isDigit
          (Nat.isDigit_of_mem_toDigits (by decide) (by decide) (List.mem_of_head? hc))
        rw [hbyte] at hdigit
        exact hhead (hc.trans (congrArg some hdigit.2.symm))
    simp only [isInt, isDigits, hall, ne_eq, hne, not_false_iff, decide_true, Bool.true_and,
      Bool.or_eq_true, decide_eq_true_eq]
    exact hlead
  have htake : (decimal n).takeWhile isDigit = decimal n := List.takeWhile_eq_self_iff.mpr hpos
  have hdrop : (decimal n).dropWhile isDigit = [] := List.dropWhile_eq_nil_iff.mpr hpos
  simp only [isNumber, if_neg hsign, htake, hdrop, hbytes, hint, isFraction, isExponent,
    Bool.and_self]

/-! ## Texts put together from parts

A text that is printed has fixed parts, with white space, punctuation,
plain strings and zeros in them, and numbers and strings between these.
-/

/-- The byte of a character of ASCII. -/
def byte (c : Char) : UInt8 := c.toNat.toUInt8

/-- The characters of a text in ASCII. -/
def chars (text : List UInt8) : List Char := text.map fun b => Char.ofNat b.toNat

theorem toNat_char (b : UInt8) : (Char.ofNat b.toNat).toNat = b.toNat :=
  JsonString.toNat_ofNat (.inl (Nat.lt_trans b.toNat_lt (by decide)))

theorem map_byte_chars (text : List UInt8) : (chars text).map byte = text := by
  rw [chars, List.map_map]
  refine (List.map_congr_left fun b _ => ?_).trans (List.map_id' _)
  rw [Function.comp_apply, byte, toNat_char, Nat.toUInt8, UInt8.ofNat_toNat]

/-- A character of ASCII that stands for itself in a string. -/
def isPlain (c : Char) : Bool := 0x20 ≤ c.toNat && c.toNat < 0x7F && c ≠ '"' && c ≠ '\\'

/-- The tokens of a fixed part. -/
def fixedTokens : ℕ → List Char → Option (List Token)
  | 0, _ => none
  | _ + 1, [] => some []
  | k + 1, c :: l =>
    if isSpace (byte c) then fixedTokens k l
    else
      match punctuation.lookup (byte c) with
      | some t => (fixedTokens k l).map (t :: ·)
      | none =>
        if c = '"' then
          match l.dropWhile isPlain with
          | '"' :: rest => (fixedTokens k rest).map (.string (l.takeWhile isPlain) :: ·)
          | _ => none
        else if c = '0' then
          match l with
          | [] => none
          | d :: _ =>
            if isNumberByte (byte d) then none
            else (fixedTokens k l).map (.number [0x30] :: ·)
        else
          match words.find? fun word => word.1.isPrefixOf ((c :: l).map byte) with
          | none => none
          | some word => (fixedTokens k ((c :: l).drop word.1.length)).map (word.2 :: ·)

theorem spells_of_isPlain {c : Char} (h : isPlain c) : JsonString.Spells [byte c] c := by
  simp only [isPlain, Bool.and_eq_true, decide_eq_true_eq] at h
  obtain ⟨⟨⟨hlow, hhigh⟩, hquote⟩, hbackslash⟩ := h
  have hunescaped := JsonString.Spells.unescaped (c := c) ⟨hlow, hquote, hbackslash⟩
  rw [JsonString.utf8EncodeChar_ascii (by omega)] at hunescaped
  exact hunescaped

/-- A plain text between quotation marks is a literal of it. -/
theorem literal_of_isPlain {text : List Char} (h : ∀ c ∈ text, isPlain c) :
    JsonString.Literal (0x22 :: (text.map byte ++ [0x22])) text := by
  refine ⟨text.map byte, rfl, ?_⟩
  induction text with
  | nil => exact .nil
  | cons c text ih =>
    rw [List.forall_mem_cons] at h
    exact .cons (spells_of_isPlain h.1) (ih h.2)

variable {us : List Token}

theorem Lexes.cons (hspelling : Spelling [b] t) (hstop : t.Stops rest) (h : Lexes rest us) :
    Lexes (b :: rest) (t :: us) :=
  .token hspelling hstop h

theorem Lexes.string {literal : List UInt8} {text : List Char}
    (hliteral : JsonString.Literal literal text) (h : Lexes rest us) :
    Lexes (literal ++ rest) (.string text :: us) :=
  .token (.string hliteral) trivial h

theorem Lexes.natural (n : ℕ) (hstop : ∀ b ∈ rest.head?, isNumberByte b = false)
    (h : Lexes rest us) : Lexes (decimal n ++ rest) (.number (decimal n) :: us) :=
  .token (.number (isNumber_decimal n)) hstop h

/-- **A fixed part puts its tokens in front.** -/
theorem Lexes.fixed (h : Lexes rest us) (k : ℕ) : ∀ {l : List Char} {ts : List Token},
    fixedTokens k l = some ts → Lexes (l.map byte ++ rest) (ts ++ us) := by
  induction k with
  | zero =>
    intro l ts hts
    cases hts
  | succ k ih =>
    intro l ts hts
    cases l with
    | nil =>
      cases hts
      exact h
    | cons c l =>
    unfold fixedTokens at hts
    by_cases hspace : isSpace (byte c)
    · rw [if_pos hspace] at hts
      exact .space hspace (ih hts)
    rw [if_neg hspace] at hts
    split at hts
    · next t hlookup =>
      rw [Option.map_eq_some_iff] at hts
      obtain ⟨ts', hrest, rfl⟩ := hts
      exact .cons (.punctuation (mem_of_lookup hlookup)) (stops_punctuation hlookup) (ih hrest)
    next hlookup =>
    by_cases hquote : c = '"'
    · rw [if_pos hquote] at hts
      split at hts
      swap
      · cases hts
      next behind hdrop =>
      rw [Option.map_eq_some_iff] at hts
      obtain ⟨ts', hrest, rfl⟩ := hts
      have hl : l = l.takeWhile isPlain ++ '"' :: behind := by
        rw [← hdrop, List.takeWhile_append_dropWhile]
      have hbytes : (c :: l).map byte ++ rest =
          (0x22 :: ((l.takeWhile isPlain).map byte ++ [0x22])) ++ (behind.map byte ++ rest) := by
        rw [hquote]
        conv_lhs => rw [hl]
        simp only [List.map_cons, List.map_append, List.cons_append, List.append_assoc,
          List.nil_append]
        rfl
      rw [hbytes]
      exact .string (literal_of_isPlain fun c hc => List.mem_takeWhile_imp hc) (ih hrest)
    rw [if_neg hquote] at hts
    by_cases hzero : c = '0'
    · rw [if_pos hzero] at hts
      cases l with
      | nil => cases hts
      | cons d l =>
      dsimp only at hts
      split at hts
      · cases hts
      next hnumber =>
      rw [Option.map_eq_some_iff] at hts
      obtain ⟨ts', hrest, rfl⟩ := hts
      subst hzero
      refine .cons (.number (by decide)) ?_ (ih hrest)
      intro b hb
      cases hb
      simpa using hnumber
    · rw [if_neg hzero] at hts
      split at hts
      · cases hts
      next word hfind =>
      rw [Option.map_eq_some_iff] at hts
      obtain ⟨ts', hrest, rfl⟩ := hts
      have hprefix := List.find?_some hfind
      rw [List.isPrefixOf_iff_prefix] at hprefix
      have hbytes : (c :: l).map byte ++ rest =
          word.1 ++ (((c :: l).drop word.1.length).map byte ++ rest) := by
        rw [← List.append_assoc, List.map_drop, List.prefix_iff_eq_append.mp hprefix]
      rw [hbytes]
      exact .token (.word (List.mem_of_find?_eq_some hfind))
        (stops_word (List.mem_of_find?_eq_some hfind)) (ih hrest)

/-! ## A text is UTF-8 -/

/-- A text in ASCII is its characters in UTF-8. -/
theorem utf8_chars (h : ∀ b ∈ bytes, b < 128) : JsonString.utf8 (chars bytes) = bytes := by
  rw [JsonString.utf8, chars, List.flatMap_map]
  induction bytes with
  | nil => rfl
  | cons b bytes ih =>
    rw [List.forall_mem_cons] at h
    have hb : b.toNat < 128 := UInt8.lt_iff_toNat_lt.mp h.1
    rw [List.flatMap_cons, ih h.2, JsonString.utf8EncodeChar_ascii (by rw [toNat_char]; exact hb),
      toNat_char, UInt8.ofNat_toNat]
    rfl

theorem utf8_of_ascii (h : ∀ b ∈ bytes, b < 128) : ∃ text, bytes = JsonString.utf8 text :=
  ⟨chars bytes, (utf8_chars h).symm⟩

/-- The same, by evaluation. -/
theorem utf8_of_all (h : bytes.all (· < 128)) : ∃ text, bytes = JsonString.utf8 text :=
  utf8_of_ascii fun b hb => of_decide_eq_true (List.all_eq_true.mp h b hb)

theorem utf8_append {bytes' : List UInt8} (h : ∃ text, bytes = JsonString.utf8 text)
    (h' : ∃ text, bytes' = JsonString.utf8 text) :
    ∃ text, bytes ++ bytes' = JsonString.utf8 text := by
  obtain ⟨text, rfl⟩ := h
  obtain ⟨text', rfl⟩ := h'
  exact ⟨text ++ text', by rw [JsonString.utf8, JsonString.utf8, JsonString.utf8, List.flatMap_append]⟩

theorem ascii_bytes : ∀ n < 256,
    (isSpace (UInt8.ofNat n) ∨ isNumberByte (UInt8.ofNat n) ∨
      (JsonString.hexValue (UInt8.ofNat n)).isSome) → UInt8.ofNat n < 128 := by
  decide +kernel

theorem ascii_of_byte
    (h : isSpace b ∨ isNumberByte b ∨ (JsonString.hexValue b).isSome) : b < 128 := by
  have hbytes := ascii_bytes b.toNat b.toNat_lt
  rw [UInt8.ofNat_toNat] at hbytes
  exact hbytes h

theorem ascii_of_hex4 {b₁ b₂ b₃ b₄ : UInt8} {n : ℕ} (h : JsonString.hex4 b₁ b₂ b₃ b₄ = some n) :
    ∀ b ∈ [b₁, b₂, b₃, b₄], b < 128 := by
  have hsome : ∀ b ∈ [b₁, b₂, b₃, b₄], (JsonString.hexValue b).isSome := by
    unfold JsonString.hex4 at h
    split at h
    · next h₁ h₂ h₃ h₄ => simp [h₁, h₂, h₃, h₄]
    · cases h
  exact fun b hb => ascii_of_byte (.inr (.inr (hsome b hb)))

theorem utf8_of_spells {c : Char} (h : JsonString.Spells spelling c) :
    ∃ text, spelling = JsonString.utf8 text := by
  cases h with
  | unescaped => exact ⟨[c], by simp [JsonString.utf8]⟩
  | short hb =>
    refine utf8_of_all ?_
    simp only [JsonString.shortEscapes, List.mem_cons, Prod.mk.injEq, List.not_mem_nil,
      or_false] at hb
    rcases hb with ⟨rfl, -⟩ | ⟨rfl, -⟩ | ⟨rfl, -⟩ | ⟨rfl, -⟩ | ⟨rfl, -⟩ | ⟨rfl, -⟩ |
      ⟨rfl, -⟩ | ⟨rfl, -⟩ <;> decide
  | unicode hn =>
    have hhex := ascii_of_hex4 hn
    refine utf8_of_ascii ?_
    simp only [List.forall_mem_cons] at hhex ⊢
    exact ⟨by decide, by decide, hhex⟩
  | surrogates hhigh hlow =>
    have hhex := ascii_of_hex4 hhigh
    have hhex' := ascii_of_hex4 hlow
    refine utf8_of_ascii ?_
    simp only [List.forall_mem_cons] at hhex hhex' ⊢
    exact ⟨by decide, by decide, hhex.1, hhex.2.1, hhex.2.2.1, hhex.2.2.2.1, by decide, by decide,
      hhex'⟩

theorem utf8_of_body {body : List UInt8} {text : List Char} (h : JsonString.Body body text) :
    ∃ text, body = JsonString.utf8 text := by
  induction h with
  | nil => exact ⟨[], rfl⟩
  | cons hspells _ ih => exact utf8_append (utf8_of_spells hspells) ih

theorem Spelling.utf8 (h : Spelling spelling t) : ∃ text, spelling = JsonString.utf8 text := by
  cases h with
  | punctuation hb =>
    refine utf8_of_all ?_
    simp only [Json.punctuation, List.mem_cons, Prod.mk.injEq, List.not_mem_nil, or_false] at hb
    rcases hb with ⟨rfl, -⟩ | ⟨rfl, -⟩ | ⟨rfl, -⟩ | ⟨rfl, -⟩ | ⟨rfl, -⟩ | ⟨rfl, -⟩ <;> decide
  | word hw =>
    refine utf8_of_all ?_
    simp only [words, List.mem_cons, Prod.mk.injEq, List.not_mem_nil, or_false] at hw
    rcases hw with ⟨rfl, -⟩ | ⟨rfl, -⟩ | ⟨rfl, -⟩ <;> decide
  | number hnumber =>
    have hall := List.all_eq_true.mp (all_of_isNumber hnumber)
    exact utf8_of_ascii fun b hb => ascii_of_byte (.inr (.inl (hall b hb)))
  | string hliteral =>
    obtain ⟨body, rfl, hbody⟩ := hliteral
    have hquote : ∃ text, [0x22] = JsonString.utf8 text := utf8_of_all (by decide)
    exact utf8_append hquote (utf8_append (utf8_of_body hbody) hquote)

/-- **A text that spells tokens is UTF-8.** -/
theorem Lexes.utf8 (h : Lexes bytes ts) : ∃ text, bytes = JsonString.utf8 text := by
  induction h with
  | nil => exact ⟨[], rfl⟩
  | @space b bytes ts hspace _ ih =>
    have hb : ∃ text, [b] = JsonString.utf8 text := by
      refine utf8_of_ascii fun b' hb' => ?_
      rw [List.mem_singleton] at hb'
      exact hb' ▸ ascii_of_byte (.inl hspace)
    exact utf8_append hb ih
  | token hspelling _ _ ih => exact utf8_append hspelling.utf8 ih

end Json
