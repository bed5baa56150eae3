namespace WidgetOutline.Text

def isBlank (c : Char) : Bool :=
  let n := c.toNat
  (9 ≤ n && n ≤ 13) || n == 0x20 || n == 0x85 || n == 0xa0 || n == 0x1680 ||
    (0x2000 ≤ n && n ≤ 0x200a) || n == 0x2028 || n == 0x2029 || n == 0x202f || n == 0x205f ||
    n == 0x3000

def trimStart (text : List Char) : List Char :=
  text.dropWhile isBlank

def trimEnd (text : List Char) : List Char :=
  (text.reverse.dropWhile isBlank).reverse

def trim (text : List Char) : List Char :=
  trimEnd (trimStart text)

def firstWord (text : List Char) : List Char :=
  text.takeWhile (!isBlank ·)

def afterFirstWord (text : List Char) : List Char :=
  text.dropWhile (!isBlank ·)

theorem not_blank_of_trimStart {text rest : List Char} {c : Char}
    (h : trimStart text = c :: rest) : isBlank c = false := by
  have head := List.head?_dropWhile_not isBlank text
  rw [show text.dropWhile isBlank = c :: rest from h] at head
  simpa using head

theorem length_afterFirstWord_lt {text rest : List Char} {c : Char}
    (h : trimStart text = c :: rest) : (afterFirstWord (c :: rest)).length < text.length := by
  have word : (!isBlank c) = true := by simp [not_blank_of_trimStart h]
  have shorter : (text.dropWhile isBlank).length ≤ text.length :=
    (List.dropWhile_sublist isBlank).length_le
  rw [show text.dropWhile isBlank = c :: rest from h] at shorter
  have after : (rest.dropWhile (!isBlank ·)).length ≤ rest.length :=
    (List.dropWhile_sublist _).length_le
  simp only [afterFirstWord, List.dropWhile_cons, word, if_true]
  simp only [List.length_cons] at shorter
  omega

def words (text : List Char) : List (List Char) :=
  match _h : trimStart text with
  | [] => []
  | c :: rest => firstWord (c :: rest) :: words (afterFirstWord (c :: rest))
termination_by text.length
decreasing_by exact length_afterFirstWord_lt _h

end WidgetOutline.Text
