namespace WidgetOutline.Path

def separator : Char := '.'

def segments (path : String) : List String :=
  (path.toList.splitOn separator).map String.ofList

def depth (path : String) : Nat := (segments path).length

def lastSegment (path : String) : String := (segments path).getLastD path

def child (parent name : String) : String := parent ++ separator.toString ++ name

def matchesSuffix (path suffix : String) : Bool :=
  path == suffix || (separator :: suffix.toList).isSuffixOf path.toList

end WidgetOutline.Path
