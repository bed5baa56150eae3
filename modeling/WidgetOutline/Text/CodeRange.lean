namespace WidgetOutline.Text

structure CodeRange where
  first : Nat
  last : Nat

def CodeRange.holds (range : CodeRange) (c : Char) : Bool :=
  range.first ≤ c.toNat && c.toNat ≤ range.last

end WidgetOutline.Text
