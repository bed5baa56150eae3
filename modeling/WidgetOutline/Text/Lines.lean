namespace WidgetOutline.Text

def lines : List Char → List (List Char)
  | [] => []
  | '\n' :: rest => [] :: lines rest
  | '\r' :: '\n' :: rest => [] :: lines rest
  | c :: rest =>
    match lines rest with
    | [] => [[c]]
    | line :: later => (c :: line) :: later

def joinLines : List (List Char) → List Char
  | [] => []
  | [line] => line
  | line :: later => line ++ '\n' :: joinLines later

theorem not_mem_of_mem_lines {text line : List Char} (h : line ∈ lines text) : '\n' ∉ line := by
  fun_induction lines text generalizing line with
  | case1 => cases h
  | case2 rest ih => rcases List.mem_cons.1 h with rfl | h <;> simp_all
  | case3 rest ih => rcases List.mem_cons.1 h with rfl | h <;> simp_all
  | case4 c rest notFeed _ none ih =>
    obtain rfl : line = [c] := by simpa using h
    simpa using fun feed : '\n' = c => notFeed feed.symm
  | case5 c rest notFeed _ first later split ih =>
    rcases List.mem_cons.1 h with rfl | h
    · have := @ih first (by simp [split])
      simpa [this] using fun feed : '\n' = c => notFeed feed.symm
    · exact ih (by simp [split, h])

end WidgetOutline.Text
