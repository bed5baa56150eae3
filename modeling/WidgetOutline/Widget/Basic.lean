namespace WidgetOutline

structure ObjectId where
  index : Nat
  deriving DecidableEq

inductive Kind where
  | layout
  | widget
  | other
  deriving DecidableEq

inductive Direction where
  | leftToRight
  | topToBottom
  deriving DecidableEq

inductive Orientation where
  | horizontal
  | vertical
  deriving DecidableEq

def Orientation.name : Orientation → String
  | horizontal => "horizontal"
  | vertical => "vertical"

inductive Slot where
  | object (id : ObjectId)
  | stretch
  deriving DecidableEq

inductive Method where
  | addLayout
  | setLayout
  | addWidget
  | addTab
  | setWidget
  | setWidgetResizable
  | addStretch
  | setOrientation
  | setText
  | setTitle
  deriving DecidableEq

namespace Method

def all : List Method :=
  [addLayout, setLayout, addWidget, addTab, setWidget, setWidgetResizable, addStretch,
    setOrientation, setText, setTitle]

def name : Method → String
  | addLayout => "addLayout"
  | setLayout => "setLayout"
  | addWidget => "addWidget"
  | addTab => "addTab"
  | setWidget => "setWidget"
  | setWidgetResizable => "setWidgetResizable"
  | addStretch => "addStretch"
  | setOrientation => "setOrientation"
  | setText => "setText"
  | setTitle => "setTitle"

def ofName? (name : String) : Option Method :=
  all.find? (·.name == name)

end Method

inductive Call where
  | addLayout (child : ObjectId)
  | setLayout (child : ObjectId)
  | addWidget (child : ObjectId)
  | addTab (child : ObjectId) (label : String)
  | setWidget (child : ObjectId)
  | setWidgetResizable (resizable : Bool)
  | addStretch
  | setOrientation (orientation : Orientation)
  | setText (text : String)
  | setTitle (title : String)
  deriving DecidableEq

namespace Call

def method : Call → Method
  | addLayout _ => .addLayout
  | setLayout _ => .setLayout
  | addWidget _ => .addWidget
  | addTab _ _ => .addTab
  | setWidget _ => .setWidget
  | setWidgetResizable _ => .setWidgetResizable
  | addStretch => .addStretch
  | setOrientation _ => .setOrientation
  | setText _ => .setText
  | setTitle _ => .setTitle

def transcript (call : Call) : String :=
  match call with
  | addTab _ label => s!"{call.method.name} {label}"
  | setWidgetResizable resizable => s!"{call.method.name} {resizable}"
  | setOrientation orientation => s!"{call.method.name} {orientation.name}"
  | setText text => s!"{call.method.name} {text}"
  | setTitle title => s!"{call.method.name} {title}"
  | _ => call.method.name

end Call

inductive Refusal where
  | unsupported
  | wrongKind (method : Method) (expected : Kind) (className : String)
  | hasLayout (className : String)
  | hasContent (className : String)
  | notResizable
  | mismatch (reason : String)
  deriving DecidableEq

def Kind.expected : Kind → String
  | layout => "a layout"
  | widget => "a widget"
  | other => "a non-visual object"

def Refusal.message : Refusal → String
  | unsupported => "not supported by the parent"
  | wrongKind method expected className =>
    s!"{method.name} expects {expected.expected}, not a {className}"
  | hasLayout className => s!"already has a {className} as its layout"
  | hasContent className => s!"already scrolls a {className}"
  | notResizable => "took the widget but cannot make it resizable"
  | mismatch reason => reason

end WidgetOutline
