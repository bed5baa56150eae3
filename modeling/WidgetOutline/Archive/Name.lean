namespace WidgetOutline.Archive

def name (stamp : String) : Nat → String
  | 0 => s!"archived_input-{stamp}.txt"
  | n => s!"archived_input-{stamp}-{n}.txt"

def freshName (stamp : String) (taken : List String) : String :=
  let candidates := (List.range (taken.length + 1)).map (name stamp)
  (candidates.find? (! taken.contains ·)).getD (name stamp (taken.length + 1))

end WidgetOutline.Archive
