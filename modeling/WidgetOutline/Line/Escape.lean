/-!
# Escapes in display text

A backslash starts an escape: `\n`, `\t`, one of the characters `\`, `(`, `)` and `#` for itself,
`\u` with four hexadecimal digits, or `\u` with one to six of them in braces.  One plus sign may
take the place of the first digit.  `decode` replaces every escape by the character it denotes, or
reports the first malformed one.
-/

namespace WidgetOutline.Escape

structure Malformed where
  sequence : List Char
  deriving DecidableEq

def digit? (c : Char) : Option Nat :=
  if '0' ≤ c ∧ c ≤ '9' then some (c.toNat - '0'.toNat)
  else if 'a' ≤ c ∧ c ≤ 'f' then some (c.toNat - 'a'.toNat + 10)
  else if 'A' ≤ c ∧ c ≤ 'F' then some (c.toNat - 'A'.toNat + 10)
  else none

def digitsFrom (high : Nat) : List Char → Option Nat
  | [] => some high
  | c :: rest => (digit? c).bind fun d => digitsFrom (16 * high + d) rest

def number? : List Char → Option Nat
  | [] => none
  | digits => digitsFrom 0 digits

/-- The number that hexadecimal digits denote, with or without a plus sign before them. -/
def signedNumber? : List Char → Option Nat
  | '+' :: digits => number? digits
  | digits => number? digits

def scalar? (n : Nat) : Option Char :=
  if n.isValidChar then some (Char.ofNat n) else none

def codePoint? (digits : List Char) : Option Char :=
  (signedNumber? digits).bind scalar?

def braced (text : List Char) : Except Malformed (Char × List Char) :=
  let digits := text.takeWhile (· != '\x7d')
  match text.dropWhile (· != '\x7d') with
  | [] => .error ⟨'\\' :: 'u' :: '\x7b' :: digits⟩
  | _ :: rest =>
    match if digits.length ≤ 6 then codePoint? digits else none with
    | some c => .ok (c, rest)
    | none => .error ⟨'\\' :: 'u' :: digits⟩

def plain (text : List Char) : Except Malformed (Char × List Char) :=
  let digits := text.take 4
  match if digits.length = 4 then codePoint? digits else none with
  | some c => .ok (c, text.drop 4)
  | none => .error ⟨'\\' :: 'u' :: digits⟩

def next : List Char → Except Malformed (Char × List Char)
  | [] => .error ⟨['\\']⟩
  | 'n' :: rest => .ok ('\n', rest)
  | 't' :: rest => .ok ('\t', rest)
  | 'u' :: '\x7b' :: rest => braced rest
  | 'u' :: rest => plain rest
  | c :: rest =>
    if c = '\\' ∨ c = '(' ∨ c = ')' ∨ c = '#' then .ok (c, rest) else .error ⟨['\\', c]⟩

theorem length_of_braced {text rest : List Char} {c : Char} (h : braced text = .ok (c, rest)) :
    rest.length < text.length := by
  have shorter := (List.dropWhile_sublist (l := text) (· != '\x7d')).length_le
  unfold braced at h
  split at h
  · cases h
  · rename_i close tail after
    dsimp only at h
    split at h
    · cases h
      simp only [after, List.length_cons] at shorter
      omega
    · cases h

theorem length_of_plain {text rest : List Char} {c : Char} (h : plain text = .ok (c, rest)) :
    rest.length ≤ text.length := by
  unfold plain at h
  dsimp only at h
  split at h
  · cases h
    simp
  · cases h

theorem length_of_next {text rest : List Char} {c : Char} (h : next text = .ok (c, rest)) :
    rest.length < text.length := by
  unfold next at h
  split at h
  · cases h
  · cases h; simp
  · cases h; simp
  · have := length_of_braced h
    simp only [List.length_cons]
    omega
  · have := length_of_plain h
    simp only [List.length_cons]
    omega
  · split at h <;> cases h
    simp

def decode : List Char → Except Malformed (List Char)
  | [] => .ok []
  | c :: rest =>
    if c = '\\' then
      match _h : next rest with
      | .error malformed => .error malformed
      | .ok (d, after) => (decode after).map (d :: ·)
    else (decode rest).map (c :: ·)
termination_by text => text.length
decreasing_by
  · have := length_of_next _h
    simp only [List.length_cons]
    omega
  · simp

end WidgetOutline.Escape
