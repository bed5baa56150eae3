import WidgetOutline.Toolkit.Basic

namespace WidgetOutline

def concreteClass (initial : Object) : ClassEntry where
  name := initial.className
  initial := .ok initial

def abstractClass (name : String) : ClassEntry where
  name
  initial := .error (.failed s!"{name} is abstract")

def freshWidget (body : Body) : Object := .widget none body

def builtinClasses : List ClassEntry :=
  [ concreteClass (.layout (.box .leftToRight [])),
    concreteClass (.layout (.box .topToBottom [])),
    concreteClass (.layout (.stack [])),
    abstractClass "QLayout",
    concreteClass (freshWidget (.container "QWidget")),
    concreteClass (freshWidget (.container "QFrame")),
    concreteClass (freshWidget (.container "QMainWindow")),
    concreteClass (freshWidget (.group none)),
    concreteClass (freshWidget (.splitter [])),
    concreteClass (freshWidget (.stack [])),
    concreteClass (freshWidget (.tabs [])),
    concreteClass (freshWidget (.scroll none false)),
    abstractClass "QAbstractScrollArea",
    concreteClass (freshWidget (.caption "QLabel" none)),
    concreteClass (freshWidget (.caption "QPushButton" none)),
    concreteClass (freshWidget (.caption "QToolButton" none)),
    concreteClass (freshWidget (.caption "QCheckBox" none)),
    concreteClass (freshWidget (.caption "QRadioButton" none)),
    concreteClass (freshWidget (.caption "QLineEdit" none)),
    abstractClass "QAbstractButton",
    concreteClass (freshWidget (.slider .vertical)),
    concreteClass (.inert "QTimer"),
    concreteClass (.inert "QAction") ]

def Toolkit.builtin : Toolkit := .ofTable builtinClasses

end WidgetOutline
