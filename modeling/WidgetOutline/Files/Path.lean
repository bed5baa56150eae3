namespace WidgetOutline.FilePath

def separator : Char := '/'

def isAbsolute (path : String) : Bool := path.toList.head? == some separator

def parts (path : String) : List String :=
  ((path.toList.splitOn separator).filter (· ≠ [])).map String.ofList

def join (directory path : String) : String :=
  if isAbsolute path || directory.isEmpty then path
  else if directory.toList.getLast? == some separator then directory ++ path
  else directory ++ separator.toString ++ path

def nameLimit : Nat := 255

def pathLimit : Nat := 4095

def parent (path : String) : String :=
  let upToSeparator := path.toList.reverse.dropWhile (· ≠ separator)
  let directory := upToSeparator.dropWhile (· == separator)
  if directory = [] ∧ upToSeparator ≠ [] then separator.toString
  else String.ofList directory.reverse

end WidgetOutline.FilePath
