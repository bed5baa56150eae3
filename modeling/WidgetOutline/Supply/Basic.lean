import WidgetOutline.Supply.Suggestion
import WidgetOutline.Toolkit.Basic
import WidgetOutline.Widget.Caption

namespace WidgetOutline

inductive SupplyError where
  | unknownType (className : String) (suggestions : List String)
  | instantiation (className reason : String)
  | wrongKind (className : String)
  | notFound (className name : String)
  | ambiguous (className name : String) (count : Nat)
  | findUnsupported (className : String)
  | cannotSetText (error : CannotSetText)
  deriving DecidableEq

def SupplyError.message : SupplyError → String
  | unknownType className [] => s!"The toolkit has no class called <{className}>."
  | unknownType className suggestions =>
    s!"The toolkit has no class called <{className}>. Did you mean one of: " ++
      ", ".intercalate suggestions ++ "?"
  | instantiation className reason => s!"Could not instantiate a <{className}>: {reason}"
  | wrongKind className =>
    s!"A <{className}> is neither a layout nor a widget, so it cannot take part in a hierarchy."
  | notFound className name => s!"Cannot find any existing <{className}> referenced as <{name}>."
  | ambiguous className name count =>
    s!"Found {count} existing <{className}> objects referenced as <{name}>, " ++
      "expected exactly one."
  | findUnsupported className =>
    s!"Finding existing objects (?{className}) is not supported here."
  | cannotSetText error => error.message

def instantiate (toolkit : Toolkit) (className : String) (heap : Heap) :
    Except SupplyError ObjectId × Heap :=
  match toolkit.construct className heap with
  | (.error (.unknown _), after) =>
    (.error (.unknownType className (suggestions toolkit.classNames className)), after)
  | (.error (.failed reason), after) => (.error (.instantiation className reason), after)
  | (.ok object, after) =>
    if after.kindOf object = .other then (.error (.wrongKind className), after)
    else (.ok object, after)

def findExisting (finder : Finder) (className name : String) (heap : Heap) :
    Except SupplyError ObjectId :=
  match finder with
  | .unsupported => .error (.findUnsupported className)
  | .searching find =>
    match find heap className name with
    | [] => .error (.notFound className name)
    | [object] => .ok object
    | several => .error (.ambiguous className name several.length)

def objectFor (toolkit : Toolkit) (finder : Finder) (name : String) (typeWord : TypeWord)
    (heap : Heap) : Except SupplyError ObjectId × Heap :=
  match typeWord with
  | .keyword shorthand => instantiate toolkit shorthand.className heap
  | .toolkitClass className => instantiate toolkit className heap
  | .findExisting className => (findExisting finder className name heap, heap)

def supply (toolkit : Toolkit) (finder : Finder) (name : String) (typeWord : TypeWord)
    (text : Option String) (heap : Heap) : Except SupplyError ObjectId × Heap :=
  match objectFor toolkit finder name typeWord heap, text with
  | (.error error, after), _ => (.error error, after)
  | (.ok object, after), none => (.ok object, after)
  | (.ok object, after), some text =>
    match after.applyText object text with
    | (.ok _, done) => (.ok object, done)
    | (.error error, done) => (.error (.cannotSetText error), done)

end WidgetOutline
