import ClientGen.Template.Nodes
import ClientGen.Template.Rendering

/-!
# Template engines

An engine reads texts as templates, and a template writes a text for a call. What it writes may go
by more than the call: by what was written before, by chance, by where its objects happen to lie, or
by what earlier templates did to them. All of this is in the state of the engine. A template is
repeatable if it goes by the call alone.

Engines are given from outside; nothing here depends on what language they read. The standard engine
is the one of this library. It reads the templates of `Template.read`, and all of these are
repeatable.
-/

set_option autoImplicit false
set_option relaxedAutoImplicit false

namespace ClientGen.Template

/-- The state of an engine, as a number for all that writing goes by besides the template and the
call. -/
abbrev State := Nat

/-- A step of an engine, which keeps its state if it fails. -/
abbrev Step := ExceptT Failure (StateM State)

/-- A template that was read, by what it writes for a call. -/
structure Renderer where
  render : Record.Call → Step String

/-- What reads templates. -/
structure Engine where
  read : String → Except Fault Renderer

namespace Renderer

/-- For each call, the same is written in every state. -/
def Repeatable (renderer : Renderer) : Prop :=
  ∀ call first second,
    ((renderer.render call).run.run first).1 = ((renderer.render call).run.run second).1

/-- Nodes write their text for a call, and change no state. -/
def ofNodes (nodes : List Node) : Renderer where
  render call := .mk (return Template.render call nodes)

theorem repeatable_ofNodes (nodes : List Node) : (ofNodes nodes).Repeatable :=
  fun _ _ _ ↦ rfl

end Renderer

/-- The engine whose templates are nodes. -/
def Engine.standard : Engine where
  read source := (Template.read source).map .ofNodes

end ClientGen.Template
