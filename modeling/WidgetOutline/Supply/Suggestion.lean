import WidgetOutline.Line.TypeWord
import WidgetOutline.Text.EditDistance
import WidgetOutline.Text.LowerCase

namespace WidgetOutline

open Text (lowerCase distanceRow)

structure Candidate where
  word : String
  distance : Nat
  longest : Nat
  deriving DecidableEq

namespace Candidate

def score (wanted known : String) : Candidate :=
  let source := lowerCase wanted.toList
  let target := lowerCase known.toList
  { word := known
    distance := (distanceRow source target).headD 0
    longest := max source.length target.length }

/-- At least as close as the other, which comes no earlier in code point order if both are equally
close.  Two empty words are equal; they count as one character long. -/
def ranksBefore (a b : Candidate) : Bool :=
  let left := a.distance * max b.longest 1
  let right := b.distance * max a.longest 1
  decide (left < right) || (decide (left = right) && decide (a.word ≤ b.word))

end Candidate

def suggestionLimit : Nat := 6

def knownWords (classNames : List String) : List String :=
  Keyword.all.map Keyword.word ++ classNames

def suggestions (classNames : List String) (wanted : String) : List String :=
  let ranked := ((knownWords classNames).map (Candidate.score wanted)).mergeSort
    Candidate.ranksBefore
  (ranked.take suggestionLimit).map (·.word)

end WidgetOutline
