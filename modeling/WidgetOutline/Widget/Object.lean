import WidgetOutline.Widget.Basic

namespace WidgetOutline

inductive Arrangement where
  | box (direction : Direction) (slots : List Slot)
  | stack (pages : List ObjectId)
  deriving DecidableEq

inductive Body where
  | container (className : String)
  | group (title : Option String)
  | splitter (panes : List ObjectId)
  | stack (pages : List ObjectId)
  | tabs (pages : List (String × ObjectId))
  | scroll (content : Option ObjectId) (resizable : Bool)
  | caption (className : String) (text : Option String)
  | slider (orientation : Orientation)
  deriving DecidableEq

inductive Answer where
  | accept
  | refuse (reason : String)
  deriving DecidableEq

structure Script where
  className : String
  kind : Kind
  /-- The methods it has; of two answers to one method the first counts. -/
  answers : List (Method × Answer)
  resizable : Option Bool
  deriving DecidableEq

def Script.answer (script : Script) (method : Method) : Except Refusal Unit :=
  match script.answers.lookup method with
  | none => .error .unsupported
  | some .accept => .ok ()
  | some (.refuse reason) => .error (.mismatch reason)

inductive Object where
  | layout (arrangement : Arrangement)
  | widget (adopted : Option ObjectId) (body : Body)
  | inert (className : String)
  | scripted (script : Script) (calls : List Call)
  deriving DecidableEq

def Arrangement.className : Arrangement → String
  | box .leftToRight _ => "QHBoxLayout"
  | box .topToBottom _ => "QVBoxLayout"
  | stack _ => "QStackedLayout"

def Arrangement.children : Arrangement → List Slot
  | box _ slots => slots
  | stack pages => pages.map .object

def Body.className : Body → String
  | container className => className
  | group _ => "QGroupBox"
  | splitter _ => "QSplitter"
  | stack _ => "QStackedWidget"
  | tabs _ => "QTabWidget"
  | scroll _ _ => "QScrollArea"
  | caption className _ => className
  | slider _ => "QSlider"

def Body.children : Body → List Slot
  | splitter panes => panes.map .object
  | stack pages => pages.map .object
  | tabs pages => pages.map (.object ·.2)
  | scroll content _ => content.toList.map .object
  | container _ | group _ | caption _ _ | slider _ => []

def Body.text? : Body → Option String
  | group title => title
  | caption _ text => text
  | _ => none

def Body.currentPage? : Body → Option ObjectId
  | stack pages => pages.head?
  | tabs pages => pages.head?.map (·.2)
  | _ => none

namespace Object

def className : Object → String
  | layout arrangement => arrangement.className
  | widget _ body => body.className
  | inert className => className
  | scripted script _ => script.className

def kind : Object → Kind
  | layout _ => .layout
  | widget _ _ => .widget
  | inert _ => .other
  | scripted script _ => script.kind

def text? : Object → Option String
  | widget _ body => body.text?
  | _ => none

def layout? : Object → Option ObjectId
  | widget adopted _ => adopted
  | _ => none

/-- The children and stretches held apart from the adopted layout, in order. -/
def children : Object → List Slot
  | layout arrangement => arrangement.children
  | widget _ body => body.children
  | _ => []

def resizable? : Object → Option Bool
  | widget _ (.scroll _ resizable) => some resizable
  | scripted script _ => script.resizable
  | _ => none

def isRow : Object → Bool
  | layout (.box .leftToRight _) => true
  | _ => false

end Object

end WidgetOutline
