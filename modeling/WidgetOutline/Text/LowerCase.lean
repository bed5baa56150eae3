import WidgetOutline.Text.CaseData

/-!
# Lower-casing

Every character is mapped on its own, except for the capital sigma: at the end of a word it becomes
the final form.  A word ends there if, passing over case-ignorable characters, a cased character
comes before the sigma and none after it.
-/

namespace WidgetOutline.Text

def isCased (c : Char) : Bool :=
  cased.any (·.holds c)

def isCaseIgnorable (c : Char) : Bool :=
  caseIgnorable.any (·.holds c)

def LowerRun.covers (run : LowerRun) (c : Char) : Bool :=
  run.range.holds c && (c.toNat - run.range.first) % run.step == 0

/-- The lower-case form of one character, whatever stands around it.  Of all characters only the
dotted capital i has a form of two. -/
def lowerChar (c : Char) : List Char :=
  if c = 'İ' then ['i', '\u0307']
  else
    match lowerRuns.find? (·.covers c) with
    | some run => [Char.ofNat (c.toNat + run.shift).toNat]
    | none => [c]

def startsCased (text : List Char) : Bool :=
  match text.dropWhile isCaseIgnorable with
  | [] => false
  | c :: _ => isCased c

def lowerAfter (before : List Char) : List Char → List Char
  | [] => []
  | c :: rest =>
    let lowered :=
      if c = 'Σ' then if startsCased before && !startsCased rest then ['ς'] else ['σ']
      else lowerChar c
    lowered ++ lowerAfter (c :: before) rest

def lowerCase (text : List Char) : List Char :=
  lowerAfter [] text

end WidgetOutline.Text
