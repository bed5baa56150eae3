import WidgetOutline.Proofs.Line.Escape

namespace WidgetOutline.Escape

def Denotes (number : List Char) : Prop :=
  ∃ sign digits, number = signed sign digits ∧ IsCodePoint digits

inductive Slip where
  | bare
  | unknown (c : Char)
  | unclosed (number : List Char)
  | plain (number : List Char)
  | braced (number : List Char)

namespace Slip

def written : Slip → List Char
  | bare => ['\\']
  | unknown c => ['\\', c]
  | unclosed number => '\\' :: 'u' :: '\x7b' :: number
  | plain number => '\\' :: 'u' :: number
  | braced number => '\\' :: 'u' :: '\x7b' :: (number ++ ['\x7d'])

def quoted : Slip → List Char
  | braced number => '\\' :: 'u' :: number
  | slip => slip.written

/-- No escape is read from the slip if `back` follows it. -/
def Stands (back : List Char) : Slip → Prop
  | bare => back = []
  | unknown c => c ∉ ['n', 't', 'u', '\\', '(', ')', '#']
  | unclosed number => '\x7d' ∉ number ∧ back = []
  | plain number => number.head? ≠ some '\x7b' ∧
      (number.length < 4 ∧ back = [] ∨ number.length = 4 ∧ ¬Denotes number)
  | braced number => '\x7d' ∉ number ∧ (6 < number.length ∨ ¬Denotes number)

theorem head_written (slip : Slip) : slip.written.head? = some '\\' := by
  cases slip <;> rfl

end Slip

theorem codePoint?_eq_none_iff {number : List Char} :
    codePoint? number = none ↔ ¬Denotes number := by
  rw [Option.eq_none_iff_forall_ne_some]
  simp only [ne_eq, codePoint?_eq_some_iff, not_exists]
  constructor
  · rintro none ⟨sign, digits, same, point⟩
    exact none _ sign digits ⟨same, point, rfl⟩
  · rintro refused c sign digits ⟨same, point, -⟩
    exact refused ⟨sign, digits, same, point⟩

theorem plain_eq_error_iff {text quoted : List Char} :
    plain text = .error ⟨quoted⟩ ↔ ∃ number back, text = number ++ back ∧
      (number.length < 4 ∧ back = [] ∨ number.length = 4 ∧ ¬Denotes number) ∧
        quoted = '\\' :: 'u' :: number := by
  unfold plain
  dsimp only
  constructor
  · intro refused
    split at refused
    · cases refused
    · rename_i unread
      cases refused
      refine ⟨text.take 4, text.drop 4, (List.take_append_drop 4 text).symm, ?_, rfl⟩
      by_cases four : (text.take 4).length = 4
      · rw [if_pos four] at unread
        exact .inr ⟨four, codePoint?_eq_none_iff.1 unread⟩
      · rw [List.length_take] at four ⊢
        exact .inl ⟨by omega, List.drop_eq_nil_iff.2 (by omega)⟩
  · rintro ⟨number, back, rfl, ⟨short, rfl⟩ | ⟨four, wrong⟩, rfl⟩
    · rw [List.append_nil, List.take_of_length_le (by omega), if_neg (by omega)]
    · rw [List.take_left' four, if_pos four, codePoint?_eq_none_iff.2 wrong]

theorem cut_at_brace {number : List Char} (open_ : '\x7d' ∉ number) (rest : List Char)
    (closes : ∀ c ∈ rest.head?, c = '\x7d') :
    (number ++ rest).takeWhile (· != '\x7d') = number ∧
      (number ++ rest).dropWhile (· != '\x7d') = rest := by
  apply Text.takeWhile_append_stop
  · exact fun c member => bne_iff_ne.2 fun close => open_ (close ▸ member)
  · exact fun c head => by simpa using closes c head

theorem braced_open {text : List Char} (open_ : '\x7d' ∉ text) :
    braced text = .error ⟨'\\' :: 'u' :: '\x7b' :: text⟩ := by
  obtain ⟨front, back⟩ := cut_at_brace open_ [] (by simp)
  rw [List.append_nil] at front back
  rw [braced, front, back]

theorem braced_eq_error_iff {number rest quoted : List Char} (open_ : '\x7d' ∉ number) :
    braced (number ++ '\x7d' :: rest) = .error ⟨quoted⟩ ↔
      (6 < number.length ∨ ¬Denotes number) ∧ quoted = '\\' :: 'u' :: number := by
  obtain ⟨front, back⟩ := cut_at_brace open_ ('\x7d' :: rest) (by simp)
  rw [braced, front, back, ← codePoint?_eq_none_iff]
  dsimp only
  by_cases short : number.length ≤ 6
  · rw [if_pos short]
    cases codePoint? number <;> simp [short, eq_comm]
  · rw [if_neg short]
    simp [not_le.1 short, eq_comm]

theorem next_of_slip {slip : Slip} {text back : List Char} (stands : slip.Stands back)
    (same : '\\' :: text = slip.written ++ back) : next text = .error ⟨slip.quoted⟩ := by
  cases slip with
  | bare =>
    obtain rfl : back = [] := stands
    cases same
    rfl
  | unknown c =>
    obtain rfl : text = c :: back := (List.cons.inj same).2
    simp only [Slip.Stands, List.mem_cons, List.not_mem_nil, or_false, not_or] at stands
    obtain ⟨noN, noT, noU, special⟩ := stands
    rw [next, if_neg (by simpa only [not_or] using special)]
    · rfl
    · exact noN
    · exact noT
    · exact fun _ letter _ => noU letter
    · exact noU
  | unclosed number =>
    obtain ⟨open_, rfl⟩ := stands
    obtain rfl : text = 'u' :: '\x7b' :: number := by simpa [Slip.written] using same
    exact braced_open open_
  | plain number =>
    obtain ⟨noBrace, cut⟩ := stands
    obtain rfl : text = 'u' :: (number ++ back) := (List.cons.inj same).2
    have noBrace' : (number ++ back).head? ≠ some '\x7b' := by
      cases number with
      | nil =>
        obtain ⟨-, rfl⟩ | ⟨four, -⟩ := cut
        · simp
        · cases four
      | cons c number => exact noBrace
    rw [next_plain noBrace']
    exact plain_eq_error_iff.2 ⟨number, back, rfl, cut, rfl⟩
  | braced number =>
    obtain ⟨open_, wrong⟩ := stands
    obtain rfl : text = 'u' :: '\x7b' :: (number ++ '\x7d' :: back) := by
      simpa [Slip.written] using same
    exact (braced_eq_error_iff open_).2 ⟨wrong, rfl⟩

theorem slip_of_next {text quoted : List Char} (refused : next text = .error ⟨quoted⟩) :
    ∃ (slip : Slip) (back : List Char), slip.Stands back ∧ '\\' :: text = slip.written ++ back ∧
      slip.quoted = quoted := by
  unfold next at refused
  split at refused
  · cases refused
    exact ⟨.bare, [], rfl, rfl, rfl⟩
  · cases refused
  · cases refused
  · rename_i rest
    by_cases closes : '\x7d' ∈ rest
    · obtain ⟨number, back, rfl, open_⟩ := List.eq_append_cons_of_mem closes
      obtain ⟨wrong, rfl⟩ := (braced_eq_error_iff open_).1 refused
      exact ⟨.braced number, back, ⟨open_, wrong⟩, by simp [Slip.written], rfl⟩
    · rw [braced_open closes] at refused
      cases refused
      exact ⟨.unclosed rest, [], ⟨closes, rfl⟩, by simp [Slip.written], rfl⟩
  · rename_i rest noBrace
    obtain ⟨number, back, rfl, cut, rfl⟩ := plain_eq_error_iff.1 refused
    refine ⟨.plain number, back, ⟨fun brace => ?_, cut⟩, rfl, rfl⟩
    obtain ⟨number, rfl⟩ := List.head?_eq_some_iff.1 brace
    exact noBrace _ rfl
  · rename_i c rest noN noT noBrace noU
    split at refused
    · cases refused
    · rename_i special
      cases refused
      refine ⟨.unknown c, rest, ?_, rfl, rfl⟩
      simp only [Slip.Stands, List.mem_cons, List.not_mem_nil, or_false, not_or] at special ⊢
      exact ⟨noN, noT, noU, special⟩

theorem decode_append_of_spells {tokens : List Token} {front decoded : List Char}
    (spells : Spells tokens front decoded) (rest : List Char) :
    decode (front ++ rest) = (decode rest).map (decoded ++ ·) := by
  obtain ⟨formed, rfl, rfl⟩ := spells
  induction tokens with
  | nil =>
    rw [List.flatMap_nil, List.nil_append]
    cases decode rest <;> rfl
  | cons token tokens ih =>
    obtain ⟨first, later⟩ := List.forall_mem_cons.1 formed
    rw [List.flatMap_cons, List.append_assoc, decode_token_append first, ih later]
    cases decode rest <;> rfl

theorem decode_escape_error {text : List Char} {malformed : Malformed}
    (refused : next text = .error malformed) : decode ('\\' :: text) = .error malformed := by
  rw [decode, if_pos rfl]
  split
  · rename_i same
    rw [refused] at same
    cases same
    rfl
  · rename_i read
    rw [refused] at read
    cases read

def FailsAt (slip : Slip) (text : List Char) : Prop :=
  ∃ front back, (∃ decoded, decode front = .ok decoded) ∧ slip.Stands back ∧
    text = front ++ slip.written ++ back

theorem decode_of_failsAt {slip : Slip} {text : List Char} (fails : FailsAt slip text) :
    decode text = .error ⟨slip.quoted⟩ := by
  obtain ⟨front, back, ⟨decoded, ok⟩, stands, rfl⟩ := fails
  obtain ⟨tokens, spells⟩ := spells_of_decode ok
  rw [List.append_assoc, decode_append_of_spells spells]
  obtain ⟨rest, written⟩ := List.head?_eq_some_iff.1 slip.head_written
  have refused : next (rest ++ back) = .error ⟨slip.quoted⟩ :=
    next_of_slip stands (by rw [written, List.cons_append])
  rw [written, List.cons_append, decode_escape_error refused]
  rfl

theorem FailsAt.cons {token : Token} {slip : Slip} {rest : List Char} (formed : token.Formed)
    (fails : FailsAt slip rest) : FailsAt slip (token.written ++ rest) := by
  obtain ⟨front, back, ⟨decoded, ok⟩, stands, rfl⟩ := fails
  refine ⟨token.written ++ front, back, ⟨token.denoted :: decoded, ?_⟩, stands, by simp⟩
  rw [decode_token_append formed, ok]
  rfl

theorem failsAt_of_decode_token {token : Token} {rest quoted : List Char} (formed : token.Formed)
    (found : decode rest = .error ⟨quoted⟩ → ∃ slip, FailsAt slip rest ∧ slip.quoted = quoted)
    (refused : decode (token.written ++ rest) = .error ⟨quoted⟩) :
    ∃ slip, FailsAt slip (token.written ++ rest) ∧ slip.quoted = quoted := by
  rw [decode_token_append formed] at refused
  cases later : decode rest with
  | error malformed =>
    rw [later] at refused
    cases refused
    obtain ⟨slip, fails, quotes⟩ := found later
    exact ⟨slip, fails.cons formed, quotes⟩
  | ok decoded =>
    rw [later] at refused
    cases refused

theorem failsAt_of_decode {text quoted : List Char} (refused : decode text = .error ⟨quoted⟩) :
    ∃ slip, FailsAt slip text ∧ slip.quoted = quoted := by
  -- A slip in the rest of the text stands behind one more token of the whole.
  induction text using decode.induct with
  | case1 =>
    rw [decode] at refused
    cases refused
  | case2 rest malformed failed =>
    rw [decode_escape_error failed] at refused
    cases refused
    obtain ⟨slip, back, stands, same, quotes⟩ := slip_of_next failed
    exact ⟨slip, ⟨[], back, ⟨[], by simp [decode]⟩, stands, same⟩, quotes⟩
  | case3 rest c after read ih =>
    obtain ⟨token, formed, same, -⟩ := token_of_next read
    rw [same] at refused ⊢
    exact failsAt_of_decode_token formed ih refused
  | case4 c rest noEscape ih =>
    have formed : (Token.letter c).Formed := noEscape
    exact failsAt_of_decode_token formed ih refused

/-- The error quotes the first malformed escape, and quotes it verbatim unless that is a number in
braces. -/
theorem decode_eq_error_iff (text quoted : List Char) :
    (decode text = .error ⟨quoted⟩ ↔ ∃ slip, FailsAt slip text ∧ slip.quoted = quoted) ∧
      ((∀ number, ¬FailsAt (.braced number) text) → decode text = .error ⟨quoted⟩ →
        ∃ front back, (∃ decoded, decode front = .ok decoded) ∧ text = front ++ quoted ++ back ∧
          quoted.head? = some '\\') := by
  have grammar : decode text = .error ⟨quoted⟩ ↔ ∃ slip, FailsAt slip text ∧ slip.quoted = quoted :=
    ⟨failsAt_of_decode, fun ⟨_, fails, quotes⟩ => quotes ▸ decode_of_failsAt fails⟩
  refine ⟨grammar, fun unbraced refused => ?_⟩
  obtain ⟨slip, fails, rfl⟩ := grammar.1 refused
  have verbatim : slip.quoted = slip.written := by
    cases slip with
    | braced number => exact absurd fails (unbraced number)
    | _ => rfl
  obtain ⟨front, back, ok, -, same⟩ := fails
  rw [verbatim]
  exact ⟨front, back, ok, same, slip.head_written⟩

theorem decode_eq_error_iff_cut :
    let text := "\\u\x7b41\x7d) \\u12".toList
    (∀ number, ¬FailsAt (.braced number) text) ∧ decode text = .error ⟨"\\u12".toList⟩ ∧
      ∃ front back, (∃ decoded, decode front = .ok decoded) ∧
        text = front ++ "\\u12".toList ++ back ∧ "\\u12".toList.head? = some '\\' := by
  intro text
  have refused : decode text = .error ⟨"\\u12".toList⟩ := by decide +kernel
  have unbraced : ∀ number, ¬FailsAt (.braced number) text := by
    intro number fails
    have quotes := decode_of_failsAt fails
    rw [refused] at quotes
    obtain rfl : "12".toList = number := by simpa [Slip.quoted] using quotes
    obtain ⟨front, back, -, -, same⟩ := fails
    have within : "\\u\x7b12\x7d".toList <:+: text := ⟨front, back, same.symm⟩
    exact absurd within (by decide)
  exact ⟨unbraced, refused, (decode_eq_error_iff text _).2 unbraced refused⟩

theorem not_quoted_of_decode_braced :
    ¬∀ text quoted : List Char, decode text = .error ⟨quoted⟩ →
      ∃ front back, (∃ decoded, decode front = .ok decoded) ∧ text = front ++ quoted ++ back ∧
        quoted.head? = some '\\' := by
  intro claim
  have refused : decode "\\u\x7b110000\x7d".toList = .error ⟨"\\u110000".toList⟩ := by
    decide +kernel
  obtain ⟨front, back, -, same, -⟩ := claim _ _ refused
  have within : "\\u110000".toList <:+: "\\u\x7b110000\x7d".toList := ⟨front, back, same.symm⟩
  exact absurd within (by decide)

end WidgetOutline.Escape
