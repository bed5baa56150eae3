import WidgetOutline.Widget.Heap

namespace WidgetOutline

def spaced : List Char → List Char
  | '_' :: '_' :: rest => ' ' :: spaced rest
  | c :: rest => c :: spaced rest
  | [] => []

def captionOfName (name : String) : String :=
  String.ofList (spaced name.toList)

inductive TextSetter where
  | setText
  | setTitle
  deriving DecidableEq

def TextSetter.name : TextSetter → String
  | setText => Method.setText.name
  | setTitle => Method.setTitle.name

structure CannotSetText where
  className : String
  text : String
  deriving DecidableEq

def CannotSetText.message (error : CannotSetText) : String :=
  s!"Cannot set the text <{error.text}> on a <{error.className}>: " ++
    "it has neither setText nor setTitle."

def Heap.applyText (heap : Heap) (target : ObjectId) (text : String) :
    Except CannotSetText TextSetter × Heap :=
  match heap.perform target (.setText text) with
  | (.ok (), after) => (.ok .setText, after)
  | (.error _, after) =>
    match after.perform target (.setTitle text) with
    | (.ok (), done) => (.ok .setTitle, done)
    | (.error _, done) =>
      (.error { className := done.classOf target, text }, done)

end WidgetOutline
