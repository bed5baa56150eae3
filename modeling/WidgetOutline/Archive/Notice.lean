namespace WidgetOutline.Notice

def sentence : String := "# This file has been automatically re-formatted."

def ending : String := "##"

def block (directory : String) : String :=
  sentence ++ "\n# Previous versions can be found here:\n# " ++ directory ++ "\n" ++ ending

def cutAt? (pattern : List Char) (text : List Char) : Option (List Char × List Char) :=
  if pattern.isPrefixOf text then some ([], text.drop pattern.length)
  else
    match text with
    | [] => none
    | c :: rest => (cutAt? pattern rest).map fun (before, after) => (c :: before, after)

def around? (text : List Char) : Option (List Char × List Char) :=
  (cutAt? sentence.toList text).bind fun (before, rest) =>
    (cutAt? ending.toList rest).map fun (_, after) => (before, after)

/-- The text with the notice for a directory: in place of the first notice it holds, or at its
head. -/
def attachTo (text directory : String) : String :=
  match around? text.toList with
  | some (before, after) => String.ofList before ++ block directory ++ String.ofList after
  | none => block directory ++ "\n" ++ text

end WidgetOutline.Notice
