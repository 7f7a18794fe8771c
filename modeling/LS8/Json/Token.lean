/-!
# Tokens of JSON

A JSON text is a sequence of tokens with white space between them.  The scanner reads one token
after the other: punctuation and quoted strings by their first character, numbers and the three
names as the longest run of characters that can occur in one.  A string is kept as text unless an
escape in it stands for half of a surrogate pair; a number is kept only if it is written as a
plain natural number, since no other number is of use here.
-/

namespace LS8.Json

/-- A token. -/
inductive Token where
  /-- The bracket that opens an array. -/
  | openBracket
  /-- The bracket that closes an array. -/
  | closeBracket
  /-- The brace that opens an object. -/
  | openBrace
  /-- The brace that closes an object. -/
  | closeBrace
  /-- The mark between items or members. -/
  | comma
  /-- The mark between the key and the value of a member. -/
  | colon
  /-- The name `null`. -/
  | null
  /-- The name of a truth value. -/
  | bool (b : Bool)
  /-- Decimal digits without sign, fraction and exponent. -/
  | natural (n : Nat)
  /-- A number in any other form. -/
  | otherNumber
  /-- A string; it has no text if half of a surrogate pair stands alone in it. -/
  | string (text : Option String)
  deriving DecidableEq, Repr

/-- White space between tokens. -/
def isSpace (c : Char) : Bool :=
  c == ' ' || c == '\n' || c == '\t' || c == '\r'

/-! ## Numbers -/

/-- The character can occur in a number. -/
def isNumberChar (c : Char) : Bool :=
  c.isDigit || c == '+' || c == '-' || c == '.' || c == 'e' || c == 'E'

/-- One digit or more and nothing else. -/
def isDigits (cs : List Char) : Bool :=
  !cs.isEmpty && cs.all Char.isDigit

/-- Digits that do not begin with a superfluous zero. -/
def isWhole (cs : List Char) : Bool :=
  isDigits cs && (cs.length == 1 || cs.head? != some '0')

/-- Drops a sign at the head. -/
def dropSign : List Char → List Char
  | '+' :: rest => rest
  | '-' :: rest => rest
  | cs => cs

/-- An exponent, or nothing. -/
def isExponent : List Char → Bool
  | [] => true
  | c :: rest => (c == 'e' || c == 'E') && isDigits (dropSign rest)

/-- What may follow the whole part of a number: a fraction, an exponent, both or nothing. -/
def isFraction : List Char → Bool
  | '.' :: rest =>
    isDigits (rest.takeWhile Char.isDigit) && isExponent (rest.dropWhile Char.isDigit)
  | cs => isExponent cs

/-- The token of a number without a sign. -/
def unsigned? (cs : List Char) : Option Token :=
  let whole := cs.takeWhile Char.isDigit
  let rest := cs.dropWhile Char.isDigit
  if isWhole whole && isFraction rest then
    some (if rest.isEmpty then .natural (Nat.ofDigitChars 10 whole 0) else .otherNumber)
  else none

/-- The token of a number. -/
def number? : List Char → Option Token
  | '-' :: rest => (unsigned? rest).map fun _ => .otherNumber
  | cs => unsigned? cs

/-! ## Names -/

/-- The token of a name. -/
def name? (cs : List Char) : Option Token :=
  if cs = ['n', 'u', 'l', 'l'] then some .null
  else if cs = ['t', 'r', 'u', 'e'] then some (.bool true)
  else if cs = ['f', 'a', 'l', 's', 'e'] then some (.bool false)
  else none

/-! ## Strings -/

/-- The value of a digit in base sixteen. -/
def hexValue? (c : Char) : Option Nat :=
  if c.isDigit then some (c.toNat - '0'.toNat)
  else if 'a' ≤ c ∧ c ≤ 'f' then some (c.toNat - 'a'.toNat + 10)
  else if 'A' ≤ c ∧ c ≤ 'F' then some (c.toNat - 'A'.toNat + 10)
  else none

/-- The value of four digits in base sixteen. -/
def codeUnit? (a b c d : Char) : Option Nat := do
  let a ← hexValue? a
  let b ← hexValue? b
  let c ← hexValue? c
  let d ← hexValue? d
  return ((a * 16 + b) * 16 + c) * 16 + d

/-- The character that an escape of two characters stands for. -/
def escaped? : Char → Option Char
  | '"' => some '"'
  | '\\' => some '\\'
  | '/' => some '/'
  | 'b' => some '\x08'
  | 'f' => some '\x0c'
  | 'n' => some '\n'
  | 'r' => some '\r'
  | 't' => some '\t'
  | _ => none

/-- The rest of a string after its opening quote: the values of its characters and escapes, put in
reverse order before those in `units`, and what follows the closing quote. -/
def stringUnits (units : List Nat) : List Char → Option (List Nat × List Char)
  | [] => none
  | '"' :: rest => some (units.reverse, rest)
  | '\\' :: 'u' :: a :: b :: c :: d :: rest =>
    match codeUnit? a b c d with
    | some unit => stringUnits (unit :: units) rest
    | none => none
  | '\\' :: c :: rest =>
    match escaped? c with
    | some e => stringUnits (e.toNat :: units) rest
    | none => none
  | c :: rest => if c.toNat < 0x20 then none else stringUnits (c.toNat :: units) rest

/-- The first half of a surrogate pair. -/
def isHighSurrogate (unit : Nat) : Bool :=
  decide (0xD800 ≤ unit) && decide (unit < 0xDC00)

/-- The second half of a surrogate pair. -/
def isLowSurrogate (unit : Nat) : Bool :=
  decide (0xDC00 ≤ unit) && decide (unit < 0xE000)

/-- The characters of a string, put in reverse order before those in `text`; none if half of a
surrogate pair stands alone. -/
def joinPairs (text : List Char) : List Nat → Option (List Char)
  | [] => some text.reverse
  | high :: low :: rest =>
    if isHighSurrogate high then
      if isLowSurrogate low then
        joinPairs (Char.ofNat (0x10000 + (high - 0xD800) * 0x400 + (low - 0xDC00)) :: text) rest
      else none
    else if isLowSurrogate high then none
    else joinPairs (Char.ofNat high :: text) (low :: rest)
  | [unit] =>
    if isHighSurrogate unit || isLowSurrogate unit then none
    else some (Char.ofNat unit :: text).reverse

/-- The token of a string with the given values. -/
def stringToken (units : List Nat) : Token :=
  .string ((joinPairs [] units).map String.ofList)

/-! ## The scanner -/

/-- The token of a punctuation mark. -/
def mark? : Char → Option Token
  | '[' => some .openBracket
  | ']' => some .closeBracket
  | '{' => some .openBrace
  | '}' => some .closeBrace
  | ',' => some .comma
  | ':' => some .colon
  | _ => none

/-- The token that begins with the character `c`, and the characters that follow it. -/
def nextToken? (c : Char) (rest : List Char) : Option (Token × List Char) :=
  match mark? c with
  | some mark => some (mark, rest)
  | none =>
    if c = '"' then
      (stringUnits [] rest).map fun read => (stringToken read.1, read.2)
    else if isNumberChar c then
      (number? (c :: rest.takeWhile isNumberChar)).map (·, rest.dropWhile isNumberChar)
    else if c.isAlpha then
      (name? (c :: rest.takeWhile Char.isAlpha)).map (·, rest.dropWhile Char.isAlpha)
    else none

theorem length_of_stringUnits {units read : List Nat} {cs rest : List Char}
    (h : stringUnits units cs = some (read, rest)) : rest.length ≤ cs.length := by
  fun_induction stringUnits units cs with
  | case1 => simp at h
  | case2 => simp_all
  | case3 units a b c d tail unit hu ih => have := ih h; simp only [List.length_cons]; omega
  | case4 => simp at h
  | case5 units c tail _ e he ih => have := ih h; simp only [List.length_cons]; omega
  | case6 => simp at h
  | case7 => simp at h
  | case8 units c tail _ _ _ hc ih => have := ih h; simp only [List.length_cons]; omega

/-- A token takes at least the character that it begins with. -/
theorem length_of_nextToken? {c : Char} {cs rest : List Char} {token : Token}
    (h : nextToken? c cs = some (token, rest)) : rest.length ≤ cs.length := by
  simp only [nextToken?] at h
  split at h
  · simp_all
  · split at h
    · obtain ⟨⟨units, tail⟩, hunits, heq⟩ := Option.map_eq_some_iff.1 h
      simp only [Prod.mk.injEq] at heq
      exact heq.2 ▸ length_of_stringUnits hunits
    · split at h
      · obtain ⟨_, _, heq⟩ := Option.map_eq_some_iff.1 h
        simp only [Prod.mk.injEq] at heq
        exact heq.2 ▸ (List.dropWhile_sublist _).length_le
      · split at h
        · obtain ⟨_, _, heq⟩ := Option.map_eq_some_iff.1 h
          simp only [Prod.mk.injEq] at heq
          exact heq.2 ▸ (List.dropWhile_sublist _).length_le
        · simp at h

/-- The tokens of a text, put in reverse order before those in `tokens`. -/
def scanFrom (tokens : List Token) : List Char → Option (List Token)
  | [] => some tokens.reverse
  | c :: rest =>
    if isSpace c then scanFrom tokens rest
    else
      match _h : nextToken? c rest with
      | none => none
      | some (token, tail) => scanFrom (token :: tokens) tail
termination_by cs => cs.length
decreasing_by
  · simp
  · have := length_of_nextToken? _h
    simp only [List.length_cons]
    omega

/-- The tokens of a text, if it is a sequence of tokens. -/
def scan (text : String) : Option (List Token) :=
  scanFrom [] text.toList

end LS8.Json
