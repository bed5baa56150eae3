import WidgetOutline.Line.Escape
import WidgetOutline.Proofs.Text.Blank
import Mathlib.Data.List.Infix
import Mathlib.Data.Nat.Digits.Defs

namespace WidgetOutline.Escape

def hexDigits : List Char := "0123456789abcdef".toList

def value (digits : List Char) : Nat :=
  Nat.ofDigits 16 (digits.reverse.map fun c => hexDigits.idxOf c.toLower)

def IsNumeral (digits : List Char) : Prop :=
  digits ≠ [] ∧ ∀ c ∈ digits, c.toLower ∈ hexDigits

theorem value_cons (c : Char) (digits : List Char) :
    value (c :: digits) = hexDigits.idxOf c.toLower * 16 ^ digits.length + value digits := by
  simp only [value, List.reverse_cons, List.map_append, Nat.ofDigits_append, List.length_map,
    List.length_reverse, List.map_cons, List.map_nil, Nat.ofDigits_singleton]
  ring

theorem digit?_of_lt :
    ∀ n < 128, digit? (Char.ofNat n) = hexDigits.idxOf? (Char.ofNat n).toLower := by
  decide +kernel

theorem lt_of_mem_hexDigits {c : Char} (member : c ∈ hexDigits) : c.toNat < 128 := by
  have all : hexDigits.all (·.toNat < 128) = true := by decide
  simpa using List.all_eq_true.1 all c member

theorem digit?_eq (c : Char) : digit? c = hexDigits.idxOf? c.toLower := by
  by_cases ascii : c.toNat < 128
  · have same := digit?_of_lt c.toNat ascii
    rwa [Char.ofNat_toNat] at same
  · have large {d : Char} (small : d.toNat < 128) : ¬c ≤ d := fun le =>
      ascii (Nat.lt_of_le_of_lt (UInt32.le_iff_toNat_le.1 le) small)
    have lower : c.toLower = c := dif_neg fun upper => large (d := 'Z') (by decide) upper.2
    have missing : c.toLower ∉ hexDigits := fun member =>
      ascii (lt_of_mem_hexDigits (lower ▸ member))
    rw [List.idxOf?_eq_none_iff.2 missing]
    unfold digit?
    rw [if_neg fun digit => large (by decide) digit.2,
      if_neg fun letter => large (by decide) letter.2,
      if_neg fun capital => large (by decide) capital.2]

theorem digit?_eq_some_iff {c : Char} {d : Nat} :
    digit? c = some d ↔ c.toLower ∈ hexDigits ∧ d = hexDigits.idxOf c.toLower := by
  rw [digit?_eq, List.idxOf_eq_getD_idxOf?, ← List.isSome_idxOf?]
  cases hexDigits.idxOf? c.toLower <;> simp [eq_comm]

theorem digitsFrom_eq_some_iff {high n : Nat} {digits : List Char} :
    digitsFrom high digits = some n ↔
      (∀ c ∈ digits, c.toLower ∈ hexDigits) ∧ n = high * 16 ^ digits.length + value digits := by
  induction digits generalizing high with
  | nil => simp [digitsFrom, value, eq_comm]
  | cons c digits ih =>
    simp only [digitsFrom, Option.bind_eq_some_iff, digit?_eq_some_iff, ih, List.forall_mem_cons,
      value_cons, List.length_cons]
    constructor
    · rintro ⟨d, ⟨first, rfl⟩, later, rfl⟩
      exact ⟨⟨first, later⟩, by ring⟩
    · rintro ⟨⟨first, later⟩, rfl⟩
      exact ⟨_, ⟨first, rfl⟩, later, by ring⟩

theorem number?_eq_some_iff {n : Nat} {digits : List Char} :
    number? digits = some n ↔ IsNumeral digits ∧ n = value digits := by
  cases digits with
  | nil => simp [number?, IsNumeral]
  | cons c digits => simp [number?, digitsFrom_eq_some_iff, IsNumeral]

def signed (sign : Bool) (digits : List Char) : List Char := if sign then '+' :: digits else digits

theorem not_hex_of_mem_signed {sign : Bool} {digits : List Char} {c : Char}
    (numeral : IsNumeral digits) (notHex : c.toLower ∉ hexDigits) (notSign : c ≠ '+') :
    c ∉ signed sign digits := by
  intro member
  cases sign with
  | false => exact notHex (numeral.2 c member)
  | true =>
    rcases List.mem_cons.1 member with rfl | member
    · exact notSign rfl
    · exact notHex (numeral.2 c member)

theorem signedNumber?_eq_some_iff {n : Nat} {text : List Char} :
    signedNumber? text = some n ↔
      ∃ sign digits, text = signed sign digits ∧ IsNumeral digits ∧ n = value digits := by
  unfold signedNumber?
  split
  · rename_i digits
    rw [number?_eq_some_iff]
    constructor
    · rintro ⟨numeral, rfl⟩
      exact ⟨true, digits, rfl, numeral, rfl⟩
    · rintro ⟨sign, digits', same, numeral, rfl⟩
      cases sign with
      | true =>
        cases same
        exact ⟨numeral, rfl⟩
      | false =>
        -- No number starts with a second sign.
        obtain rfl : '+' :: digits = digits' := same
        exact absurd (numeral.2 '+' (List.mem_cons_self ..)) (by decide)
  · rename_i unsigned
    rw [number?_eq_some_iff]
    constructor
    · rintro ⟨numeral, rfl⟩
      exact ⟨false, text, rfl, numeral, rfl⟩
    · rintro ⟨sign, digits, same, numeral, rfl⟩
      cases sign with
      | true => exact absurd same (unsigned digits)
      | false =>
        obtain rfl : text = digits := same
        exact ⟨numeral, rfl⟩

/-- The number is that of a character: surrogates are left out. -/
structure IsCodePoint (digits : List Char) : Prop where
  numeral : IsNumeral digits
  valid : (value digits).isValidChar

def character (digits : List Char) : Char := Char.ofNat (value digits)

theorem codePoint?_eq_some_iff {text : List Char} {c : Char} :
    codePoint? text = some c ↔
      ∃ sign digits, text = signed sign digits ∧ IsCodePoint digits ∧ c = character digits := by
  unfold codePoint?
  simp only [Option.bind_eq_some_iff, signedNumber?_eq_some_iff, scalar?,
    Option.ite_none_right_eq_some, Option.some.injEq]
  constructor
  · rintro ⟨_, ⟨sign, digits, same, numeral, rfl⟩, valid, rfl⟩
    exact ⟨sign, digits, same, ⟨numeral, valid⟩, rfl⟩
  · rintro ⟨sign, digits, same, ⟨numeral, valid⟩, rfl⟩
    exact ⟨_, ⟨sign, digits, same, numeral, rfl⟩, valid, rfl⟩

theorem plain_eq_ok_iff {text rest : List Char} {c : Char} :
    plain text = .ok (c, rest) ↔ ∃ sign digits, text = signed sign digits ++ rest ∧
      (signed sign digits).length = 4 ∧ IsCodePoint digits ∧ c = character digits := by
  unfold plain
  dsimp only
  constructor
  · intro ok
    split at ok
    · rename_i read
      cases ok
      obtain ⟨four, read⟩ := Option.ite_none_right_eq_some.1 read
      obtain ⟨sign, digits, same, point, rfl⟩ := codePoint?_eq_some_iff.1 read
      refine ⟨sign, digits, ?_, same ▸ four, point, rfl⟩
      rw [← same, List.take_append_drop]
    · cases ok
  · rintro ⟨sign, digits, rfl, four, denotes⟩
    have read := codePoint?_eq_some_iff.2 ⟨sign, digits, rfl, denotes⟩
    rw [← four, List.take_left, List.drop_left, if_pos rfl, read]

theorem braced_eq_ok_iff {text rest : List Char} {c : Char} :
    braced text = .ok (c, rest) ↔ ∃ sign digits, text = signed sign digits ++ '\x7d' :: rest ∧
      (signed sign digits).length ≤ 6 ∧ IsCodePoint digits ∧ c = character digits := by
  unfold braced
  dsimp only
  constructor
  · intro ok
    split at ok
    · cases ok
    · rename_i close after split
      split at ok
      · rename_i read
        cases ok
        obtain ⟨short, read⟩ := Option.ite_none_right_eq_some.1 read
        obtain ⟨sign, digits, same, point, rfl⟩ := codePoint?_eq_some_iff.1 read
        refine ⟨sign, digits, ?_, same ▸ short, point, rfl⟩
        have stops := List.head?_dropWhile_not (· != '\x7d') text
        rw [split] at stops
        obtain rfl : close = '\x7d' := by simpa using stops
        rw [← same, ← split, List.takeWhile_append_dropWhile]
      · cases ok
  · rintro ⟨sign, digits, rfl, short, point, rfl⟩
    have inside : ∀ d ∈ signed sign digits, (d != '\x7d') = true := fun d member =>
      bne_iff_ne.2 fun close =>
        not_hex_of_mem_signed point.numeral (by decide) (by decide) (close ▸ member)
    obtain ⟨front, back⟩ := Text.takeWhile_append_stop inside
      (show ∀ d ∈ ('\x7d' :: rest).head?, (d != '\x7d') = false by simp)
    have read := codePoint?_eq_some_iff.2 ⟨sign, digits, rfl, point, rfl⟩
    rw [front, back]
    dsimp only
    rw [if_pos short, read]

inductive Token where
  | letter (c : Char)
  | newline
  | tab
  | itself (c : Char)
  | plain (sign : Bool) (digits : List Char)
  | braced (sign : Bool) (digits : List Char)

namespace Token

def written : Token → List Char
  | letter c => [c]
  | newline => ['\\', 'n']
  | tab => ['\\', 't']
  | itself c => ['\\', c]
  | plain sign digits => '\\' :: 'u' :: signed sign digits
  | braced sign digits => '\\' :: 'u' :: '\x7b' :: (signed sign digits ++ ['\x7d'])

def denoted : Token → Char
  | letter c => c
  | newline => '\n'
  | tab => '\t'
  | itself c => c
  | plain _ digits => character digits
  | braced _ digits => character digits

def Formed : Token → Prop
  | letter c => c ≠ '\\'
  | newline => True
  | tab => True
  | itself c => c = '\\' ∨ c = '(' ∨ c = ')' ∨ c = '#'
  | plain sign digits => (signed sign digits).length = 4 ∧ IsCodePoint digits
  | braced sign digits => (signed sign digits).length ≤ 6 ∧ IsCodePoint digits

def isSigned : Token → Bool
  | plain sign _ => sign
  | braced sign _ => sign
  | _ => false

end Token

theorem next_plain {text : List Char} (noBrace : text.head? ≠ some '\x7b') :
    next ('u' :: text) = plain text := by
  rw [next]
  intro rest same
  rw [same] at noBrace
  exact noBrace rfl

theorem next_of_token {token : Token} {text rest : List Char} (formed : token.Formed)
    (same : '\\' :: text = token.written ++ rest) : next text = .ok (token.denoted, rest) := by
  cases token with
  | letter c => exact absurd (List.cons.inj same).1.symm formed
  | newline =>
    cases same
    rfl
  | tab =>
    cases same
    rfl
  | itself c =>
    cases same
    rcases formed with rfl | rfl | rfl | rfl <;> rfl
  | plain sign digits =>
    obtain ⟨four, point⟩ := formed
    obtain rfl : text = 'u' :: (signed sign digits ++ rest) := (List.cons.inj same).2
    have noBrace : (signed sign digits ++ rest).head? ≠ some '\x7b' := by
      intro brace
      have nonempty : signed sign digits ≠ [] := List.ne_nil_of_length_eq_add_one four
      rw [List.head?_append_of_ne_nil _ nonempty] at brace
      exact not_hex_of_mem_signed point.numeral (by decide) (by decide)
        (List.mem_of_head? brace)
    rw [next_plain noBrace]
    exact plain_eq_ok_iff.2 ⟨sign, digits, rfl, four, point, rfl⟩
  | braced sign digits =>
    obtain ⟨short, point⟩ := formed
    obtain rfl : text = 'u' :: '\x7b' :: (signed sign digits ++ '\x7d' :: rest) := by
      simpa [Token.written] using same
    exact braced_eq_ok_iff.2 ⟨sign, digits, rfl, short, point, rfl⟩

theorem token_of_next {text rest : List Char} {c : Char} (ok : next text = .ok (c, rest)) :
    ∃ token : Token, token.Formed ∧ '\\' :: text = token.written ++ rest ∧
      token.denoted = c := by
  unfold next at ok
  split at ok
  · cases ok
  · cases ok
    exact ⟨.newline, trivial, rfl, rfl⟩
  · cases ok
    exact ⟨.tab, trivial, rfl, rfl⟩
  · obtain ⟨sign, digits, rfl, short, point, rfl⟩ := braced_eq_ok_iff.1 ok
    exact ⟨.braced sign digits, ⟨short, point⟩, by simp [Token.written], rfl⟩
  · obtain ⟨sign, digits, rfl, four, point, rfl⟩ := plain_eq_ok_iff.1 ok
    exact ⟨.plain sign digits, ⟨four, point⟩, by simp [Token.written], rfl⟩
  · split at ok
    · rename_i special
      cases ok
      exact ⟨.itself c, special, rfl, rfl⟩
    · cases ok

theorem decode_escape_ok {text rest : List Char} {c : Char} (ok : next text = .ok (c, rest)) :
    decode ('\\' :: text) = (decode rest).map (c :: ·) := by
  rw [decode, if_pos rfl]
  split
  · rename_i refused
    rw [ok] at refused
    cases refused
  · rename_i read
    rw [ok] at read
    cases read
    rfl

theorem decode_token_append {token : Token} (formed : token.Formed) (rest : List Char) :
    decode (token.written ++ rest) = (decode rest).map (token.denoted :: ·) := by
  cases token with
  | letter c =>
    rw [Token.written, List.singleton_append, decode, if_neg formed]
    rfl
  | newline => exact decode_escape_ok (next_of_token formed rfl)
  | tab => exact decode_escape_ok (next_of_token formed rfl)
  | itself c => exact decode_escape_ok (next_of_token formed rfl)
  | plain sign digits => exact decode_escape_ok (next_of_token formed rfl)
  | braced sign digits => exact decode_escape_ok (next_of_token formed rfl)

/-- The text is the row of tokens and denotes these characters. -/
structure Spells (tokens : List Token) (text decoded : List Char) : Prop where
  formed : ∀ token ∈ tokens, token.Formed
  written : text = tokens.flatMap Token.written
  denoted : decoded = tokens.map Token.denoted

theorem decode_of_spells {tokens : List Token} {text decoded : List Char}
    (spells : Spells tokens text decoded) : decode text = .ok decoded := by
  obtain ⟨formed, rfl, rfl⟩ := spells
  induction tokens with
  | nil => simp [decode]
  | cons token tokens ih =>
    obtain ⟨first, later⟩ := List.forall_mem_cons.1 formed
    rw [List.flatMap_cons, decode_token_append first, ih later]
    rfl

theorem Spells.cons {token : Token} {tokens : List Token} {text decoded : List Char}
    (spells : Spells tokens text decoded) (formed : token.Formed) :
    Spells (token :: tokens) (token.written ++ text) (token.denoted :: decoded) where
  formed := List.forall_mem_cons.2 ⟨formed, spells.formed⟩
  written := by rw [List.flatMap_cons, ← spells.written]
  denoted := by rw [List.map_cons, ← spells.denoted]

theorem spells_of_decode_token {token : Token} {rest decoded : List Char} (formed : token.Formed)
    (spelled : ∀ {decoded}, decode rest = .ok decoded → ∃ tokens, Spells tokens rest decoded)
    (ok : decode (token.written ++ rest) = .ok decoded) :
    ∃ tokens, Spells tokens (token.written ++ rest) decoded := by
  rw [decode_token_append formed] at ok
  cases later : decode rest with
  | error malformed =>
    rw [later] at ok
    cases ok
  | ok decoded =>
    rw [later] at ok
    cases ok
    obtain ⟨tokens, spells⟩ := spelled later
    exact ⟨token :: tokens, spells.cons formed⟩

theorem spells_of_decode {text decoded : List Char} (ok : decode text = .ok decoded) :
    ∃ tokens, Spells tokens text decoded := by
  induction text using decode.induct generalizing decoded with
  | case1 =>
    rw [decode] at ok
    cases ok
    exact ⟨[], by simp, rfl, rfl⟩
  | case2 rest malformed refused =>
    rw [decode, if_pos rfl] at ok
    split at ok
    · cases ok
    · rename_i read
      rw [refused] at read
      cases read
  | case3 rest c after read ih =>
    obtain ⟨token, formed, same, -⟩ := token_of_next read
    rw [same] at ok ⊢
    exact spells_of_decode_token formed ih ok
  | case4 c rest noEscape ih =>
    have formed : (Token.letter c).Formed := noEscape
    exact spells_of_decode_token formed ih ok

theorem Spells.infix {tokens : List Token} {text decoded : List Char} {token : Token}
    (spells : Spells tokens text decoded) (member : token ∈ tokens) : token.written <:+: text := by
  obtain ⟨front, back, rfl⟩ := List.append_of_mem member
  rw [spells.written, List.flatMap_append, List.flatMap_cons, ← List.append_assoc]
  exact ⟨_, _, rfl⟩

theorem Spells.unsigned {tokens : List Token} {text decoded : List Char}
    (spells : Spells tokens text decoded) (noPlain : ¬"\\u+".toList <:+: text)
    (noBraced : ¬"\\u\x7b+".toList <:+: text) : ∀ token ∈ tokens, token.isSigned = false := by
  intro token member
  have within := spells.infix member
  rcases token with c | _ | _ | c | ⟨_ | _, digits⟩ | ⟨_ | _, digits⟩
  case plain.true =>
    have front : "\\u+".toList <+: (Token.plain true digits).written := ⟨digits, rfl⟩
    exact absurd (front.isInfix.trans within) noPlain
  case braced.true =>
    have front : "\\u\x7b+".toList <+: (Token.braced true digits).written :=
      ⟨digits ++ ['\x7d'], rfl⟩
    exact absurd (front.isInfix.trans within) noBraced
  all_goals rfl

theorem decode_eq_ok_iff (text decoded : List Char) :
    (decode text = .ok decoded ↔ ∃ tokens, Spells tokens text decoded) ∧
      (¬"\\u+".toList <:+: text → ¬"\\u\x7b+".toList <:+: text →
        (decode text = .ok decoded ↔ ∃ tokens, Spells tokens text decoded ∧
          ∀ token ∈ tokens, token.isSigned = false)) := by
  have grammar : decode text = .ok decoded ↔ ∃ tokens, Spells tokens text decoded :=
    ⟨spells_of_decode, fun ⟨_, spells⟩ => decode_of_spells spells⟩
  refine ⟨grammar, fun noPlain noBraced => grammar.trans ⟨?_, ?_⟩⟩
  · rintro ⟨tokens, spells⟩
    exact ⟨tokens, spells, spells.unsigned noPlain noBraced⟩
  · rintro ⟨tokens, spells, -⟩
    exact ⟨tokens, spells⟩

theorem decode_eq_ok_iff_sum :
    let text := "\\u0041 + \\u\x7b1F600\x7d\\n".toList
    ¬"\\u+".toList <:+: text ∧ ¬"\\u\x7b+".toList <:+: text ∧
      ∃ tokens, Spells tokens text "A + 😀\n".toList ∧
        ∀ token ∈ tokens, token.isSigned = false := by
  intro text
  have noPlain : ¬"\\u+".toList <:+: text := by decide
  have noBraced : ¬"\\u\x7b+".toList <:+: text := by decide
  have read : decode text = .ok "A + 😀\n".toList := by decide +kernel
  exact ⟨noPlain, noBraced, ((decode_eq_ok_iff text _).2 noPlain noBraced).1 read⟩

theorem Spells.signed_of_plus {tokens : List Token} {rest decoded : List Char}
    (spells : Spells tokens ('\\' :: 'u' :: '+' :: rest) decoded) :
    ∃ token ∈ tokens, token.isSigned = true := by
  obtain ⟨formed, written, -⟩ := spells
  cases tokens with
  | nil => cases written
  | cons token tokens =>
    have first := formed token (List.mem_cons_self ..)
    rw [List.flatMap_cons] at written
    refine ⟨token, List.mem_cons_self .., ?_⟩
    cases token with
    | letter c => exact absurd (List.cons.inj written).1.symm first
    | newline => simp [Token.written] at written
    | tab => simp [Token.written] at written
    | itself c =>
      obtain ⟨rfl, -⟩ : 'u' = c ∧ _ := by simpa [Token.written] using written
      simp [Token.Formed] at first
    | plain sign digits =>
      cases sign with
      | true => rfl
      | false =>
        obtain ⟨four, point⟩ := first
        obtain ⟨c, later, rfl⟩ := List.exists_cons_of_ne_nil point.numeral.1
        obtain ⟨rfl, -⟩ : '+' = c ∧ _ := by simpa [Token.written, signed] using written
        exact absurd (point.numeral.2 '+' (List.mem_cons_self ..)) (by decide)
    | braced sign digits => simp [Token.written] at written

theorem not_decode_eq_ok_iff_unsigned :
    ¬∀ text decoded : List Char, decode text = .ok decoded ↔ ∃ tokens,
      Spells tokens text decoded ∧ ∀ token ∈ tokens, token.isSigned = false := by
  intro claim
  have read : decode "\\u+041".toList = .ok ['A'] := by decide +kernel
  obtain ⟨tokens, spells, unsigned⟩ := (claim _ _).1 read
  obtain ⟨token, member, sign⟩ := Spells.signed_of_plus spells
  rw [unsigned token member] at sign
  cases sign

end WidgetOutline.Escape
