import WidgetOutline.Nesting.Strategy
import WidgetOutline.Registry.Basic

namespace WidgetOutline

inductive Level where
  | error
  | warn
  | info
  | debug
  | trace
  deriving DecidableEq

namespace Level

def name : Level → String
  | error => "ERROR"
  | warn => "WARN"
  | info => "INFO"
  | debug => "DEBUG"
  | trace => "TRACE"

def rank : Level → Nat
  | error => 1
  | warn => 2
  | info => 3
  | debug => 4
  | trace => 5

end Level

inductive Event where
  | loggingReady
  | registered (path className : String) (provenance : Provenance)
  | attached (child : String) (strategy : Strategy) (parentClass : String)
  | refused (child : String) (strategy : Strategy) (refusal : Refusal)
  | built (count : Nat) (origin : String)
  | filesFailed (failed total : Nat)
  | reformatted (file archived : String)
  deriving DecidableEq

namespace Event

def level : Event → Level
  | loggingReady => .debug
  | registered _ _ _ => .debug
  | attached _ _ _ => .debug
  | refused _ _ _ => .trace
  | built _ _ => .info
  | filesFailed _ _ => .warn
  | reformatted _ _ => .info

def topic : Event → String
  | loggingReady => "trellis_ui::logging::init"
  | registered _ _ _ => "trellis_ui::dsl::registry"
  | attached _ _ _ => "trellis_ui::dsl::composer"
  | refused _ _ _ => "trellis_ui::dsl::composer"
  | built _ _ => "trellis_ui::dsl::builder"
  | filesFailed _ _ => "trellis"
  | reformatted _ _ => "trellis::rewriter"

def message : Event → String
  | loggingReady => "logging initialized"
  | registered path className provenance =>
    s!"registered {path} <{className}> ({provenance.description})"
  | attached child strategy parentClass => s!"{child}: {strategy.name} on <{parentClass}>"
  | refused child strategy refusal => s!"{child}: {strategy.name} refused: {refusal.message}"
  | built count origin => s!"built {count} items from {origin}"
  | filesFailed failed total => s!"{failed} of {total} files failed to build"
  | reformatted file archived => s!"re-formatted {file}, previous version at {archived}"

end Event

end WidgetOutline
