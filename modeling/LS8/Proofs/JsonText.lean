import LS8.Json.Value
import LS8.Proofs.Numeral
import Mathlib.Data.List.Chain

/-!
# How a JSON text is written

A value can be written down in many ways.  `Spells` says how a token is spelled, with every
character of a string either as it is or as an escape, and `Laid` says that a text is a sequence of
tokens with any white space around them.  The scanner finds the tokens again as long as no two
words stand next to each other (`scanFrom_of_laid`).

`tokens` are the tokens of a value, commas and colons in their places.  No two words stand next to
each other in them (`separated_tokens_append`) and the reading of values takes them back to the
value (`foldlM_tokens`), so whoever lays out the tokens of a value as a text knows what the text is
read as (`parse?_of_laid`).  All of this goes along the value, with a statement of its own for the
items and for the members that still follow.
-/

namespace LS8.Json

/-! ## Spellings -/

/-- The character may stand for itself inside the quotes of a string: it is no control character
and has no meaning of its own. -/
def isPlain (c : Char) : Bool :=
  decide (0x20 ≤ c.toNat) && c != '"' && c != '\\'

/-- A way to write a character inside the quotes of a string. -/
inductive WritesChar : Char → List Char → Prop where
  /-- The character itself. -/
  | plain {c : Char} (h : isPlain c = true) : WritesChar c [c]
  /-- An escape of two characters. -/
  | short {c e : Char} (h : escaped? e = some c) : WritesChar c ['\\', e]
  /-- An escape with the value of the character. -/
  | value {c a₁ a₂ a₃ a₄ : Char} (h : codeUnit? a₁ a₂ a₃ a₄ = some c.toNat) :
      WritesChar c ['\\', 'u', a₁, a₂, a₃, a₄]

/-- A way to write a text inside the quotes of a string. -/
inductive WritesText : List Char → List Char → Prop where
  /-- Nothing. -/
  | nil : WritesText [] []
  /-- One more character in front. -/
  | cons {c : Char} {cs piece pieces : List Char} (hc : WritesChar c piece)
      (hcs : WritesText cs pieces) : WritesText (c :: cs) (piece ++ pieces)

/-- A spelling of a token. -/
inductive Spells : Token → List Char → Prop where
  /-- A mark. -/
  | mark {t : Token} {c : Char} (h : mark? c = some t) : Spells t [c]
  /-- One of the three names. -/
  | name {t : Token} {cs : List Char} (h : name? cs = some t) : Spells t cs
  /-- A natural number in decimal. -/
  | natural (n : Nat) : Spells (.natural n) (Nat.toDigits 10 n)
  /-- A text in quotes. -/
  | string {cs written : List Char} (h : WritesText cs written) :
      Spells (.string (some (String.ofList cs))) ('"' :: (written ++ ['"']))

/-- A sequence of tokens as it may be laid out in a text. -/
inductive Laid : List Token → List Char → Prop where
  /-- The end of the text. -/
  | nil : Laid [] []
  /-- White space. -/
  | space {ts : List Token} {c : Char} {text : List Char} (hc : isSpace c = true)
      (htext : Laid ts text) : Laid ts (c :: text)
  /-- A token. -/
  | token {t : Token} {ts : List Token} {written text : List Char} (ht : Spells t written)
      (htext : Laid ts text) : Laid (t :: ts) (written ++ text)

/-- The token has no end of its own: it goes on as far as its characters do. -/
def Token.isWord : Token → Bool
  | .null | .bool _ | .natural _ | .otherNumber => true
  | _ => false

/-- No two words stand next to each other. -/
def Separated (ts : List Token) : Prop :=
  ts.IsChain fun t u => t.isWord = false ∨ u.isWord = false

/-! ## Strings -/

lemma WritesText.append_plain {cs : List Char} (h : cs.all isPlain = true)
    {ds written : List Char} (hds : WritesText ds written) :
    WritesText (cs ++ ds) (cs ++ written) := by
  induction cs with
  | nil => exact hds
  | cons c cs ih =>
    rw [List.all_cons, Bool.and_eq_true] at h
    change WritesText (c :: (cs ++ ds)) ([c] ++ (cs ++ written))
    exact .cons (.plain h.1) (ih h.2)

/-- The spelling of a text of which every character stands for itself. -/
lemma Spells.plain {cs : List Char} (h : cs.all isPlain = true) :
    Spells (.string (some (String.ofList cs))) ('"' :: (cs ++ ['"'])) := by
  have htext := WritesText.append_plain h .nil
  rw [List.append_nil] at htext
  exact .string htext

lemma stringUnits_of_writesChar {c : Char} {piece : List Char} (h : WritesChar c piece)
    (units : List Nat) (rest : List Char) :
    stringUnits units (piece ++ rest) = stringUnits (c.toNat :: units) rest := by
  cases h with
  | plain h =>
    simp only [isPlain, Bool.and_eq_true, decide_eq_true_eq, bne_iff_ne] at h
    obtain ⟨⟨hc, hquote⟩, hescape⟩ := h
    rw [List.singleton_append, stringUnits, if_neg (Nat.not_lt.2 hc)]
    · exact hquote
    · exact fun _ _ _ _ _ h _ => hescape h
    · exact fun _ _ h _ => hescape h
  | @short e h =>
    have hnot : e ≠ 'u' := by
      rintro rfl
      have hnone : escaped? 'u' = none := by decide
      exact Option.some_ne_none c (h.symm.trans hnone)
    simp only [List.cons_append, List.nil_append]
    rw [stringUnits, h]
    rintro _ _ _ _ _ rfl _
    exact hnot rfl
  | value h =>
    simp only [List.cons_append, List.nil_append]
    rw [stringUnits, h]

lemma stringUnits_of_writesText {cs written : List Char} (h : WritesText cs written)
    (units : List Nat) (rest : List Char) :
    stringUnits units (written ++ '"' :: rest) =
      some (units.reverse ++ cs.map Char.toNat, rest) := by
  induction h generalizing units with
  | nil => rw [List.nil_append, stringUnits, List.map_nil, List.append_nil]
  | cons hc _ ih =>
    rw [List.append_assoc, stringUnits_of_writesChar hc, ih, List.reverse_cons, List.append_assoc]
    rfl

/-- A character is no half of a surrogate pair. -/
lemma not_surrogate (c : Char) :
    isHighSurrogate c.toNat = false ∧ isLowSurrogate c.toNat = false := by
  have hvalid : c.toNat < 0xD800 ∨ 0xDFFF < c.toNat ∧ c.toNat < 0x110000 := c.valid
  simp only [isHighSurrogate, isLowSurrogate, Bool.and_eq_false_iff, decide_eq_false_iff_not]
  omega

lemma joinPairs_map_toNat (text cs : List Char) :
    joinPairs text (cs.map Char.toNat) = some (text.reverse ++ cs) := by
  induction cs generalizing text with
  | nil => rw [List.map_nil, joinPairs, List.append_nil]
  | cons c cs ih =>
    obtain ⟨hhigh, hlow⟩ := not_surrogate c
    cases cs with
    | nil =>
      rw [List.map_singleton, joinPairs, hhigh, hlow, Char.ofNat_toNat, List.reverse_cons]
      rfl
    | cons d ds =>
      have hrest := ih (c :: text)
      rw [List.map_cons] at hrest
      rw [List.map_cons, List.map_cons, joinPairs, hhigh, hlow, Char.ofNat_toNat,
        if_neg Bool.false_ne_true, if_neg Bool.false_ne_true, hrest, List.reverse_cons,
        List.append_assoc]
      rfl

/-! ## Words -/

/-- A character that is in no word. -/
def endsWord (c : Char) : Prop :=
  isNumberChar c = false ∧ c.isAlpha = false

lemma endsWord_of_isSpace {c : Char} (h : isSpace c = true) : endsWord c := by
  simp only [isSpace, Bool.or_eq_true, beq_iff_eq] at h
  rcases h with ((rfl | rfl) | rfl) | rfl <;> exact ⟨by decide, by decide⟩

lemma outside_of_mark {c : Char} {t : Token} (h : mark? c = some t) :
    isSpace c = false ∧ endsWord c ∧ t.isWord = false := by
  rw [mark?.eq_def] at h
  split at h <;> cases h <;> exact ⟨by decide, ⟨by decide, by decide⟩, rfl⟩

lemma begins_of_isDigit {c : Char} (h : c.isDigit = true) :
    isSpace c = false ∧ mark? c = none ∧ c ≠ '"' := by
  have hnumber : isNumberChar c = true := by
    rw [isNumberChar, h]
    rfl
  refine ⟨?_, ?_, ?_⟩
  · by_contra hspace
    have hends := (endsWord_of_isSpace (Bool.not_eq_false _ ▸ hspace)).1
    exact Bool.false_ne_true (hends.symm.trans hnumber)
  · by_contra hmark
    obtain ⟨t, ht⟩ := Option.ne_none_iff_exists'.1 hmark
    exact Bool.false_ne_true ((outside_of_mark ht).2.1.1.symm.trans hnumber)
  · rintro rfl
    exact absurd h (by decide)

lemma span_append {p : Char → Bool} {word rest : List Char} (hword : ∀ c ∈ word, p c = true)
    (hrest : ∀ c ∈ rest.head?, p c = false) :
    (word ++ rest).takeWhile p = word ∧ (word ++ rest).dropWhile p = rest := by
  rw [List.takeWhile_append_of_pos hword, List.dropWhile_append_of_pos hword]
  cases rest with
  | nil => exact ⟨List.append_nil word, rfl⟩
  | cons c rest =>
    have hc : ¬ p c = true := Bool.eq_false_iff.1 (hrest c rfl)
    rw [List.takeWhile_cons_of_neg hc, List.dropWhile_cons_of_neg hc, List.append_nil]
    exact ⟨rfl, rfl⟩

lemma isWhole_toDigits (n : Nat) : isWhole (Nat.toDigits 10 n) = true := by
  have hdigits : isDigits (Nat.toDigits 10 n) = true := by
    rw [isDigits, Bool.and_eq_true, List.all_eq_true]
    refine ⟨?_, fun c hc => Text.isDigit_of_mem_toDigits hc⟩
    rw [Bool.not_eq_true', List.isEmpty_eq_false_iff]
    exact Nat.toDigits_ne_nil
  rw [isWhole, hdigits, Bool.true_and, Bool.or_eq_true, beq_iff_eq, bne_iff_ne]
  rcases Nat.eq_zero_or_pos n with rfl | hpos
  · exact Or.inl rfl
  · exact Or.inr (Text.head?_toDigits (by decide) hpos)

lemma number?_toDigits (n : Nat) : number? (Nat.toDigits 10 n) = some (.natural n) := by
  have hdigit : ∀ c ∈ Nat.toDigits 10 n, c.isDigit = true := fun c hc =>
    Text.isDigit_of_mem_toDigits hc
  have hnothing : ∀ c ∈ [].head?, Char.isDigit c = false := fun c hc => nomatch hc
  obtain ⟨htake, hdrop⟩ := span_append hdigit hnothing
  rw [List.append_nil] at htake hdrop
  rw [number?]
  · rw [unsigned?, htake, hdrop, isWhole_toDigits, Nat.ofDigitChars_ten_toDigits]
    rfl
  · intro tail h
    have hminus := hdigit '-' (h ▸ List.mem_cons_self)
    exact absurd hminus (by decide)

/-! ## Scanning -/

/-- A text begins with a token, and `rest` is what follows it. -/
def BeginsWith (t : Token) (text rest : List Char) : Prop :=
  ∃ c tail, text = c :: tail ∧ isSpace c = false ∧ nextToken? c tail = some (t, rest)

lemma scanFrom_of_beginsWith {t : Token} {text rest : List Char} (h : BeginsWith t text rest)
    (ts : List Token) : scanFrom ts text = scanFrom (t :: ts) rest := by
  obtain ⟨c, tail, rfl, hspace, hnext⟩ := h
  rw [scanFrom, if_neg (Bool.eq_false_iff.1 hspace)]
  split
  · rename_i hnone
    rw [hnone] at hnext
    exact absurd hnext (Option.some_ne_none _).symm
  · rename_i hsome
    rw [hsome, Option.some.injEq, Prod.mk.injEq] at hnext
    rw [hnext.1, hnext.2]

lemma beginsWith_mark {t : Token} {c : Char} (h : mark? c = some t) (rest : List Char) :
    BeginsWith t (c :: rest) rest := by
  refine ⟨c, rest, rfl, (outside_of_mark h).1, ?_⟩
  rw [nextToken?, h]

lemma beginsWith_name {t : Token} {cs : List Char} (h : name? cs = some t) {rest : List Char}
    (hrest : ∀ c ∈ rest.head?, endsWord c) : BeginsWith t (cs ++ rest) rest := by
  have hword : ∃ c tail, cs = c :: tail ∧ isSpace c = false ∧ mark? c = none ∧ c ≠ '"' ∧
      isNumberChar c = false ∧ c.isAlpha = true ∧ tail.all Char.isAlpha = true := by
    rw [name?] at h
    split_ifs at h with h₁ h₂ h₃
    · exact ⟨_, _, h₁, by decide⟩
    · exact ⟨_, _, h₂, by decide⟩
    · exact ⟨_, _, h₃, by decide⟩
  obtain ⟨c, tail, rfl, hspace, hmark, hquote, hnumber, halpha, htail⟩ := hword
  obtain ⟨htake, hdrop⟩ := span_append (List.all_eq_true.1 htail) fun d hd => (hrest d hd).2
  refine ⟨c, tail ++ rest, rfl, hspace, ?_⟩
  rw [nextToken?, hmark, if_neg hquote, hnumber, if_neg Bool.false_ne_true, if_pos halpha, htake,
    hdrop, h]
  rfl

lemma beginsWith_natural (n : Nat) {rest : List Char} (hrest : ∀ c ∈ rest.head?, endsWord c) :
    BeginsWith (.natural n) (Nat.toDigits 10 n ++ rest) rest := by
  have hdigit : ∀ c ∈ Nat.toDigits 10 n, c.isDigit = true := fun c hc =>
    Text.isDigit_of_mem_toDigits hc
  obtain ⟨c, tail, hdigits⟩ := List.exists_cons_of_ne_nil (Nat.toDigits_ne_nil (b := 10) (n := n))
  have hnumber : number? (c :: tail) = some (.natural n) := hdigits ▸ number?_toDigits n
  rw [hdigits] at hdigit ⊢
  have hchar : ∀ d ∈ c :: tail, isNumberChar d = true := fun d hd => by
    rw [isNumberChar, hdigit d hd]
    rfl
  have hc := hdigit c List.mem_cons_self
  obtain ⟨htake, hdrop⟩ := span_append (fun d hd => hchar d (List.mem_cons_of_mem c hd))
    fun d hd => (hrest d hd).1
  obtain ⟨hspace, hmark, hquote⟩ := begins_of_isDigit hc
  refine ⟨c, tail ++ rest, rfl, hspace, ?_⟩
  rw [nextToken?, hmark, if_neg hquote, if_pos (hchar c List.mem_cons_self), htake, hdrop, hnumber]
  rfl

lemma beginsWith_string {cs written : List Char} (h : WritesText cs written) (rest : List Char) :
    BeginsWith (.string (some (String.ofList cs))) ('"' :: (written ++ '"' :: rest)) rest := by
  refine ⟨'"', _, rfl, by decide, ?_⟩
  have hmark : mark? '"' = none := by decide
  have hunits := stringUnits_of_writesText h [] rest
  rw [List.reverse_nil, List.nil_append] at hunits
  have htext := joinPairs_map_toNat [] cs
  rw [List.reverse_nil, List.nil_append] at htext
  rw [nextToken?, hmark]
  simp only [if_pos, hunits, Option.map_some, stringToken, htext]

lemma isWord_of_name {t : Token} {cs : List Char} (h : name? cs = some t) : t.isWord = true := by
  rw [name?] at h
  split_ifs at h <;> cases h <;> rfl

lemma beginsWith_of_spells {t : Token} {written rest : List Char} (h : Spells t written)
    (hrest : t.isWord = true → ∀ c ∈ rest.head?, endsWord c) :
    BeginsWith t (written ++ rest) rest := by
  cases h with
  | mark h => exact beginsWith_mark h rest
  | name h => exact beginsWith_name h (hrest (isWord_of_name h))
  | natural n => exact beginsWith_natural n (hrest rfl)
  | string h =>
    rw [List.cons_append, List.append_assoc]
    exact beginsWith_string h rest

lemma endsWord_of_spells {t : Token} {written : List Char} (h : Spells t written)
    (ht : t.isWord = false) : ∃ c tail, written = c :: tail ∧ endsWord c := by
  cases h with
  | mark h => exact ⟨_, _, rfl, (outside_of_mark h).2.1⟩
  | name h => exact absurd (ht.symm.trans (isWord_of_name h)) Bool.false_ne_true
  | natural n => exact absurd ht.symm Bool.false_ne_true
  | string h => exact ⟨_, _, rfl, by decide, by decide⟩

/-- What follows a word in a text is no part of the word unless it is a word itself. -/
lemma endsWord_of_laid {ts : List Token} {text : List Char} (h : Laid ts text)
    (hts : ∀ t ∈ ts.head?, t.isWord = false) : ∀ c ∈ text.head?, endsWord c := by
  cases h with
  | nil => exact fun c hc => absurd hc (by simp)
  | space hc htext =>
    rintro d hd
    cases hd
    exact endsWord_of_isSpace hc
  | token ht htext =>
    obtain ⟨c, tail, rfl, hc⟩ := endsWord_of_spells ht (hts _ rfl)
    rintro d hd
    cases hd
    exact hc

/-- **The scanner finds the tokens of a text again**, however it is laid out. -/
lemma scanFrom_of_laid {ts : List Token} {text : List Char} (h : Laid ts text)
    (hts : Separated ts) (found : List Token) :
    scanFrom found text = some (found.reverse ++ ts) := by
  induction h generalizing found with
  | nil => rw [scanFrom, List.append_nil]
  | space hc _ ih =>
    rw [scanFrom, if_pos hc]
    exact ih hts found
  | @token t ts written text ht htext ih =>
    obtain ⟨hnext, hrest⟩ := List.isChain_cons.1 hts
    have hbegins : BeginsWith t (written ++ text) text := by
      refine beginsWith_of_spells ht fun hword => endsWord_of_laid htext fun u hu => ?_
      exact (hnext u hu).resolve_left fun hno => Bool.false_ne_true (hno.symm.trans hword)
    rw [scanFrom_of_beginsWith hbegins, ih hrest, List.reverse_cons, List.append_assoc]
    rfl

/-! ## The tokens of a value -/

mutual

/-- The tokens that a value is written as. -/
def tokens : Json → List Token
  | .null => [.null]
  | .bool b => [.bool b]
  | .natural n => [.natural n]
  | .otherNumber => [.otherNumber]
  | .string text => [.string text]
  | .array [] => [.openBracket, .closeBracket]
  | .array (v :: items) => .openBracket :: (v.tokens ++ moreItems items)
  | .object [] => [.openBrace, .closeBrace]
  | .object ((key, v) :: members) =>
    .openBrace :: .string key :: .colon :: (v.tokens ++ moreMembers members)

/-- The tokens of an array from the end of an item on. -/
def moreItems : List Json → List Token
  | [] => [.closeBracket]
  | v :: items => .comma :: (v.tokens ++ moreItems items)

/-- The tokens of an object from the end of a member on. -/
def moreMembers : List (Option String × Json) → List Token
  | [] => [.closeBrace]
  | (key, v) :: members => .comma :: .string key :: .colon :: (v.tokens ++ moreMembers members)

end

/-- Tokens that may follow a value. -/
def Follow (ts : List Token) : Prop :=
  Separated ts ∧ ∀ t ∈ ts.head?, t.isWord = false

lemma Follow.cons_mark {t : Token} (ht : t.isWord = false) {ts : List Token}
    (hts : Separated ts) : Follow (t :: ts) :=
  ⟨hts.cons fun _ _ => Or.inl ht, fun _ hu => Option.some.inj hu ▸ ht⟩

lemma Follow.cons {ts : List Token} (hts : Follow ts) (t : Token) : Separated (t :: ts) :=
  hts.1.cons fun u hu => Or.inr (hts.2 u hu)

mutual

/-- No two words stand next to each other in the tokens of a value. -/
lemma separated_tokens_append : ∀ (v : Json) {rest : List Token}, Follow rest →
    Separated (v.tokens ++ rest)
  | .null, _, h | .bool _, _, h | .natural _, _, h | .otherNumber, _, h | .string _, _, h =>
    h.cons _
  | .array [], _, h | .object [], _, h => ((h.cons _).cons fun _ _ => Or.inl rfl)
  | .array (v :: items), rest, h => by
    have hitems := separated_tokens_append v (follow_moreItems_append items h)
    rw [tokens, List.cons_append, List.append_assoc]
    exact hitems.cons fun _ _ => Or.inl rfl
  | .object ((key, v) :: members), rest, h => by
    have hmembers := separated_tokens_append v (follow_moreMembers_append members h)
    rw [tokens, List.cons_append, List.cons_append, List.cons_append, List.append_assoc]
    exact ((hmembers.cons fun _ _ => Or.inl rfl).cons fun _ _ => Or.inl rfl).cons
      fun _ _ => Or.inl rfl

lemma follow_moreItems_append : ∀ (items : List Json) {rest : List Token}, Follow rest →
    Follow (moreItems items ++ rest)
  | [], _, h => .cons_mark rfl h.1
  | v :: items, rest, h => by
    have hitems := separated_tokens_append v (follow_moreItems_append items h)
    rw [moreItems, List.cons_append, List.append_assoc]
    exact .cons_mark rfl hitems

lemma follow_moreMembers_append : ∀ (members : List (Option String × Json)) {rest : List Token},
    Follow rest → Follow (moreMembers members ++ rest)
  | [], _, h => .cons_mark rfl h.1
  | (key, v) :: members, rest, h => by
    have hmembers := separated_tokens_append v (follow_moreMembers_append members h)
    rw [moreMembers, List.cons_append, List.cons_append, List.cons_append, List.append_assoc]
    exact .cons_mark rfl ((hmembers.cons fun _ _ => Or.inl rfl).cons fun _ _ => Or.inl rfl)

end

/-- The first item of an array is read as any other. -/
lemma foldlM_firstItem (v : Json) (rest : List Token) (stack : List Open) :
    (v.tokens ++ rest).foldlM Reading.step ⟨.firstItem, stack⟩ =
      (v.tokens ++ rest).foldlM Reading.step ⟨.value, .array [] :: stack⟩ := by
  rcases v with _ | b | n | _ | text | (_ | ⟨v, items⟩) | (_ | ⟨⟨key, v⟩, members⟩) <;> rfl

mutual

/-- The tokens of a value are read as the value, whatever is open. -/
lemma foldlM_tokens : ∀ (v : Json) (stack : List Open),
    v.tokens.foldlM Reading.step ⟨.value, stack⟩ = some ⟨.afterValue v, stack⟩
  | .null, _ | .bool _, _ | .natural _, _ | .otherNumber, _ | .string _, _ => rfl
  | .array [], _ | .object [], _ => rfl
  | .array (v :: items), stack => by
    change (v.tokens ++ moreItems items).foldlM Reading.step ⟨.firstItem, stack⟩ = _
    rw [foldlM_firstItem, List.foldlM_append, foldlM_tokens v]
    exact foldlM_moreItems items [] v stack
  | .object ((key, v) :: members), stack => by
    change (v.tokens ++ moreMembers members).foldlM Reading.step
      ⟨.value, .object [] key :: stack⟩ = _
    rw [List.foldlM_append, foldlM_tokens v]
    exact foldlM_moreMembers members [] key v stack

lemma foldlM_moreItems : ∀ (items read : List Json) (v : Json) (stack : List Open),
    (moreItems items).foldlM Reading.step ⟨.afterValue v, .array read :: stack⟩ =
      some ⟨.afterValue (.array ((v :: read).reverse ++ items)), stack⟩
  | [], _, _, _ => by
    rw [List.append_nil]
    rfl
  | w :: items, read, v, stack => by
    change (w.tokens ++ moreItems items).foldlM Reading.step
      ⟨.value, .array (v :: read) :: stack⟩ = _
    rw [List.foldlM_append, foldlM_tokens w]
    refine (foldlM_moreItems items (v :: read) w stack).trans ?_
    rw [List.reverse_cons, List.append_assoc]
    rfl

lemma foldlM_moreMembers : ∀ (members read : List (Option String × Json)) (key : Option String)
    (v : Json) (stack : List Open),
    (moreMembers members).foldlM Reading.step ⟨.afterValue v, .object read key :: stack⟩ =
      some ⟨.afterValue (.object (((key, v) :: read).reverse ++ members)), stack⟩
  | [], _, _, _, _ => by
    rw [List.append_nil]
    rfl
  | (other, w) :: members, read, key, v, stack => by
    change (w.tokens ++ moreMembers members).foldlM Reading.step
      ⟨.value, .object ((key, v) :: read) other :: stack⟩ = _
    rw [List.foldlM_append, foldlM_tokens w]
    refine (foldlM_moreMembers members ((key, v) :: read) other w stack).trans ?_
    rw [List.reverse_cons, List.append_assoc]
    rfl

end

/-- **A text is read as the value that it was written for**, whatever white space and whatever
spellings were used. -/
theorem parse?_of_laid {v : Json} {text : String} (h : Laid v.tokens text.toList) :
    parse? text = some v := by
  have hseparated : Separated v.tokens := by
    have happended := @separated_tokens_append v [] ⟨List.isChain_nil, nofun⟩
    rwa [List.append_nil] at happended
  have hscan : scan text = some v.tokens := scanFrom_of_laid h hseparated []
  rw [parse?, hscan]
  change ofTokens? v.tokens = some v
  rw [ofTokens?, Reading.start, foldlM_tokens]
  rfl

end LS8.Json
