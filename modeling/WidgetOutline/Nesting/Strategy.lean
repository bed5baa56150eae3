import WidgetOutline.Widget.Heap

namespace WidgetOutline

inductive Strategy where
  | addLayout
  | setLayout
  | addWidget
  | addTab
  | setWidget
  | addStretch
  deriving DecidableEq

namespace Strategy

def method : Strategy → Method
  | addLayout => .addLayout
  | setLayout => .setLayout
  | addWidget => .addWidget
  | addTab => .addTab
  | setWidget => .setWidget
  | addStretch => .addStretch

def name (strategy : Strategy) : String := strategy.method.name

end Strategy

structure TabLabels where
  used : Nat
  deriving DecidableEq

namespace TabLabels

def start : TabLabels := ⟨0⟩

def next (tabs : TabLabels) : String := s!"tab_{tabs.used + 1}"

def advance (tabs : TabLabels) : TabLabels := ⟨tabs.used + 1⟩

end TabLabels

end WidgetOutline
